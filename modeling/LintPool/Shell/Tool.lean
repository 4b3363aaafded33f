import LintPool.Shell.Tool.Characters
import LintPool.Shell.Tool.Copying
import LintPool.Shell.Tool.Lines
import LintPool.Shell.Tool.Numbers
import LintPool.Shell.Tool.Places

set_option autoImplicit false

/-!
# Small programs

The programs that scripts call most: they copy, count and cut what they read, and look after files.

## Main definitions

* `LintPool.Shell.tool?` — the program of a name.
-/

namespace LintPool.Shell

namespace Tool

/-- Writes the values of variables that it gets, or all variables. -/
def printenv (s : Surrounding) : Routine Ending := do
  if s.arguments.isEmpty then
    for (name, value) in s.environment do printLine (name ++ '=' :: value)
    exit 0
  else
    let mut code := 0
    for name in s.arguments do
      match s.environment.find? (·.1 = name) with
      | some (_, value) => printLine value
      | none => code := 1
    exit code

/-- Writes its arguments. -/
def echo (s : Surrounding) : Routine Ending := do
  match s.arguments with
  | ['-', 'n'] :: rest => print ([' '].intercalate rest)
  | args => printLine ([' '].intercalate args)
  exit 0

end Tool

/-- The program of a name. -/
def tool? : String → Option (Surrounding → Routine Ending)
  | "cat" => some Tool.cat
  | "head" => some Tool.head
  | "tail" => some Tool.tail
  | "tee" => some Tool.tee
  | "dd" => some Tool.dd
  | "yes" => some Tool.yes
  | "wc" => some Tool.wc
  | "tr" => some Tool.tr
  | "sort" => some Tool.sort
  | "uniq" => some Tool.uniq
  | "cut" => some Tool.cut
  | "sleep" => some Tool.sleep
  | "seq" => some Tool.seq
  | "ls" => some Tool.ls
  | "rm" => some Tool.rm
  | "rmdir" => some Tool.rmdir
  | "mkdir" => some Tool.mkdir
  | "touch" => some Tool.touch
  | "cp" => some Tool.cp
  | "mv" => some Tool.mv
  | "ln" => some Tool.ln
  | "chmod" => some Tool.chmod
  | "basename" => some Tool.basename
  | "dirname" => some Tool.dirname
  | "pwd" => some Tool.pwd
  | "printenv" => some Tool.printenv
  | "echo" => some Tool.echo
  | "true" => some fun _ => Tool.exit 0
  | "false" => some fun _ => Tool.exit 1
  | _ => none

end LintPool.Shell
