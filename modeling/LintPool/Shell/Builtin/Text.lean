import LintPool.Shell.Condition
import LintPool.Shell.Expansion
import LintPool.Shell.Format

set_option autoImplicit false

/-!
# Commands of the shell that write, read and test

## Main definitions

* `LintPool.Shell.Builtin.echo`, `printf` — write.
* `LintPool.Shell.Builtin.read` — reads a line into variables.
* `LintPool.Shell.Builtin.test` — tests a condition.
-/

namespace LintPool.Shell.Builtin

/-- The letters of the options at the front of the arguments, and the operands. -/
def flagsOf (allowed : String) : List Letters → Act (Letters × List Letters)
  | ['-', '-'] :: rest => return ([], rest)
  | ('-' :: c :: cs) :: rest => do
    match (c :: cs).find? fun c => !allowed.toList.contains c with
    | some bad => giveUp ("Illegal option -".toList ++ [bad])
    | none =>
      let (flags, rest) ← flagsOf allowed rest
      return (c :: cs ++ flags, rest)
  | rest => return ([], rest)

/-! ## Writing -/

/-- Writes text to the output; the code for whether that was possible. -/
def put (cs : Letters) : Act Nat := do
  if cs.isEmpty || (← emit 1 (bytesOf cs)) then return 0
  complain ((← state).speaker ++ "I/O error".toList)
  return 1

/-- Writes its arguments with their escapes replaced. -/
def echo (args : List Letters) : Act Nat :=
  let (args, newline) := match args with
    | ['-', 'n'] :: rest => (rest, false)
    | rest => (rest, true)
  let (cs, stops) := unescaped ([' '].intercalate args)
  put (if newline && !stops then cs ++ ['\n'] else cs)

/-- Writes a format filled with its arguments. -/
def printf (args : List Letters) : Act Nat := do
  let (_, args) ← flagsOf "" args
  match args with
  | [] => giveUp "usage: printf format [arg ...]".toList
  | format :: args =>
    let f := formatted format args
    for c in f.complaints do complain c
    match f.failure with
    | some what =>
      complain what
      let _ ← put f.text
      halt .fault
    | none =>
      let code ← put f.text
      return if f.complaints.isEmpty then code else 1

/-! ## Reading -/

/-- Reads the characters of a line, in at most `fuel` steps; yields them and whether the line has an
end. A backslash hides the next character unless `raw` is so. -/
def line (raw : Bool) : (fuel : Nat) → List Mark → Act (List Mark × Bool)
  | 0, done => return (done.reverse, false)
  | fuel + 1, done => do
    match ← take 1 with
    | [] => return (done.reverse, false)
    | b :: _ =>
      let c := Char.ofNat b.toNat
      if c = '\n' then return (done.reverse, true)
      else if c = '\\' && !raw then
        match ← take 1 with
        | [] => return (done.reverse, false)
        | b :: _ =>
          if b = 0x0A then line raw fuel done
          else line raw fuel (⟨Char.ofNat b.toNat, true⟩ :: done)
      else if b = 0 then line raw fuel done
      else line raw fuel (⟨c, false⟩ :: done)

/-- Whether a mark divides fields. -/
def dividing (ifs : Letters) (m : Mark) : Bool := !m.quoted && ifs.contains m.char

/-- Whether a mark divides fields and is a blank. -/
def dividingBlank (ifs : Letters) (m : Mark) : Bool :=
  dividing ifs m && (m.char = ' ' || m.char = '\t' || m.char = '\n')

/-- What the last variable gets of a line: all that is left, without the divider behind a single
field. -/
def lastField (ifs : Letters) (ms : List Mark) : Letters :=
  let ms := (ms.reverse.dropWhile (dividingBlank ifs)).reverse
  let field := ms.takeWhile fun m => !dividing ifs m
  match (ms.drop field.length).dropWhile (dividingBlank ifs) with
  | [m] => if dividing ifs m then plain field else plain ms
  | _ => plain ms

/-- Gives a variable that an argument names a value. -/
def fillVariable (name value : Letters) : Act Unit := do
  if !isName name then giveUp (name ++ ": bad variable name".toList)
  assign name value

/-- Gives the fields of a line to variables; the last gets all that is left. -/
def fillVariables (ifs : Letters) : List Letters → List Mark → Act Unit
  | [], _ => return
  | [name], ms => fillVariable name (lastField ifs (ms.dropWhile (dividingBlank ifs)))
  | name :: names, ms => do
    let ms := ms.dropWhile (dividingBlank ifs)
    let field := ms.takeWhile fun m => !dividing ifs m
    let rest := (ms.drop field.length).dropWhile (dividingBlank ifs)
    let rest := match rest with
      | m :: more => if dividing ifs m then more else m :: more
      | [] => []
    fillVariable name (plain field)
    fillVariables ifs names rest

/-- The arguments of `read` without a prompt, which is only for people. -/
def withoutPrompt : List Letters → List Letters
  | ['-', 'p'] :: _ :: rest => withoutPrompt rest
  | ['-', 'r'] :: rest => ['-', 'r'] :: withoutPrompt rest
  | rest => rest

/-- Reads a line into variables. -/
def read (args : List Letters) : Act Nat := do
  let (flags, names) ← flagsOf "r" (withoutPrompt args)
  if names.isEmpty then giveUp "arg count".toList
  let (ms, ended) ← line (flags.contains 'r') Tool.rounds []
  fillVariables (dividers (← state)) names ms
  return if ended then 0 else 1

/-! ## Tests -/

/-- Tests a condition. -/
def test (args : List Letters) : Act Nat := do
  match Condition.holds (← files) args with
  | .ok v => return if v then 0 else 1
  | .error what => giveUp what

/-- Tests a condition that stands before a bracket. -/
def bracket (args : List Letters) : Act Nat := do
  if args.getLast? = some [']'] then test args.dropLast else giveUp "missing ]".toList

end LintPool.Shell.Builtin
