import LintPool.Shell.Builtin.Course
import LintPool.Shell.Builtin.Settings

set_option autoImplicit false

/-!
# Commands that the shell runs itself

A special command is one whose faults end the shell, and before which a variable is set for good.

## Main definitions

* `LintPool.Shell.Builtin` — a command that the shell runs itself.
* `LintPool.Shell.builtin?` — the command of a name.
* `LintPool.Shell.describe` — what a name means to the shell.
-/

namespace LintPool.Shell

/-- A command that the shell runs itself. -/
structure Builtin where
  /-- Its name. -/
  name : String
  /-- Whether it is special. -/
  isSpecial : Bool
  /-- What it does with its arguments. -/
  run : List Letters → Act Nat

namespace Builtin

/-- Writes the rights that new files do not get. -/
def umask (args : List Letters) : Act Nat :=
  if args.isEmpty then put "0022\n".toList else return 0

/-- Writes the time that the shell has needed. -/
def times : Act Nat :=
  let none := "0m0.000000s 0m0.000000s\n".toList
  put (none ++ none)

/-- The commands that need nothing but the shell. -/
def table (e : Engine) : List Builtin :=
  [ ⟨":", true, fun _ => return 0⟩,
    ⟨"true", false, fun _ => return 0⟩,
    ⟨"false", false, fun _ => return 1⟩,
    ⟨"echo", false, echo⟩,
    ⟨"printf", false, printf⟩,
    ⟨"read", false, read⟩,
    ⟨"test", false, test⟩,
    ⟨"[", false, bracket⟩,
    ⟨"cd", false, cd⟩,
    ⟨"pwd", false, pwd⟩,
    ⟨"exit", true, exit⟩,
    ⟨"return", true, returnWith⟩,
    ⟨"break", true, leave .leave⟩,
    ⟨"continue", true, leave .again⟩,
    ⟨"shift", true, shift⟩,
    ⟨"set", true, set⟩,
    ⟨"unset", true, unset⟩,
    ⟨"export", true, exportAll⟩,
    ⟨"readonly", true, readonly⟩,
    ⟨"local", true, makeLocal⟩,
    ⟨"eval", true, eval e⟩,
    ⟨".", true, source e⟩,
    ⟨"trap", true, trap⟩,
    ⟨"times", true, fun _ => times⟩,
    ⟨"kill", false, kill e⟩,
    ⟨"wait", false, wait⟩,
    ⟨"umask", false, umask⟩,
    ⟨"hash", false, fun _ => return 0⟩,
    ⟨"jobs", false, fun _ => return 0⟩,
    ⟨"fg", false, fun _ => giveUp "No current job".toList⟩,
    ⟨"bg", false, fun _ => giveUp "No current job".toList⟩ ]

end Builtin

/-- What a name means to the shell. -/
inductive Meaning where
  | keyword
  | function
  | builtin (isSpecial : Bool)
  | program (path : Letters)
  deriving Repr

/-- What a name means to the shell, if it means anything. -/
def meaning? (e : Engine) (name : Letters) : Act (Option Meaning) := do
  let s ← state
  if Parse.keywords.any (·.toList = name) then return some .keyword
  if s.functions.any (·.1 = name) then return some .function
  if ["type", "command"].any (·.toList = name) then return some (.builtin false)
  if name = "exec".toList then return some (.builtin true)
  match (Builtin.table e).find? (·.name.toList = name) with
  | some b => return some (.builtin b.isSpecial)
  | none => return (e.programs.find name s.environment (← files)).map .program

/-- A sentence on what a name means. -/
def Meaning.sentence (name : Letters) : Meaning → Letters
  | .keyword => name ++ " is a shell keyword\n".toList
  | .function => name ++ " is a shell function\n".toList
  | .builtin false => name ++ " is a shell builtin\n".toList
  | .builtin true => name ++ " is a special shell builtin\n".toList
  | .program path => name ++ " is ".toList ++ path ++ ['\n']

/-- Writes what names mean; the code says whether all mean something. -/
def describe (e : Engine) : List Letters → Act Nat
  | [] => return 0
  | name :: rest => do
    let code ← match ← meaning? e name with
      | some m => Builtin.put (m.sentence name)
      | none =>
        let _ ← Builtin.put (name ++ ": not found\n".toList)
        pure 127
    return max code (← describe e rest)

/-- Writes how a name would be called. -/
def locate (e : Engine) (name : Letters) : Act Nat := do
  match ← meaning? e name with
  | some (.program path) => Builtin.put (path ++ ['\n'])
  | some _ => Builtin.put (name ++ ['\n'])
  | none => return 127

/-- The command of a name that the shell runs itself. -/
def builtin? (e : Engine) (name : Letters) : Option Builtin :=
  if name = "type".toList then some ⟨"type", false, describe e⟩
  else (Builtin.table e).find? (·.name.toList = name)

/-- Runs a command of the shell; its faults end the shell if `faultsEnd` is so. -/
def runBuiltin (b : Builtin) (faultsEnd : Bool) (args : List Letters) : Act Nat :=
  let act := speakingAs b.name.toList (b.run args)
  if faultsEnd then act
  else tryCatch act fun
    | .fault => return 2
    | h => halt h

end LintPool.Shell
