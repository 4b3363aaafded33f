import LintPool.Program.Launch

set_option autoImplicit false

/-!
# A program that runs

A program runs beside those who talk to it. What is written to its input waits in a pipe until the
program reads it; a pipe holds only so much.

## Main definitions

* `LintPool.Child` — a program that runs, its input pipe and what it wrote.
* `LintPool.Child.step` — the next thing that it does, if it can do something.
-/

namespace LintPool

/-- The most bytes that wait in a pipe. -/
def pipeCapacity : Nat := 65536

/-- A program that runs. -/
structure Child where
  /-- What it will do. -/
  course : Routine Ending
  /-- The bytes that wait in its input pipe. -/
  input : Bytes
  /-- Whether more may be written to its input. -/
  inputOpen : Bool
  /-- What it wrote to its output and nobody has taken yet. -/
  output : Bytes
  /-- Whether it may write more to its output. -/
  outputOpen : Bool
  /-- The nanoseconds for which it sleeps on, if it sleeps. -/
  asleep : Option Nat
  /-- How it ended, if it has. -/
  ending : Option Ending

namespace Child

/-- A program that has just been started. -/
def start (course : Routine Ending) : Child := ⟨course, [], true, [], true, none, none⟩

/-- The program ends. -/
def finish (c : Child) (e : Ending) : Child :=
  { c with course := .done e, outputOpen := false, asleep := none, ending := some e }

/-- The program is killed, unless it has ended. -/
def kill (c : Child) : Child :=
  match c.ending with
  | some _ => c
  | none => c.finish (.killed 9)

/-- The number of bytes for which there is room in the input pipe. -/
def room (c : Child) : Nat := pipeCapacity - c.input.length

/-- Time goes by. -/
def elapse (c : Child) (nanos : Nat) : Child :=
  match c.asleep with
  | none => c
  | some left => { c with asleep := if left ≤ nanos then none else some (left - nanos) }

/-- The next thing that a program does, if it can do something; it may change files. -/
def step (c : Child) (files : FileTree) : Option (Child × FileTree) :=
  if c.ending.isSome || c.asleep.isSome then none
  else match c.course with
    | .done e => some (c.finish e, files)
    | .receive most next =>
      if c.input.isEmpty then
        if c.inputOpen then none else some ({ c with course := next [] }, files)
      else some ({ c with course := next (c.input.take most), input := c.input.drop most }, files)
    | .send .output bytes next =>
      some ({ c with course := next (), output := c.output ++ bytes }, files)
    | .send .errors _ next => some ({ c with course := next () }, files)
    | .close .output next => some ({ c with course := next (), outputOpen := false }, files)
    | .close .errors next => some ({ c with course := next () }, files)
    | .pause length next => some ({ c with course := next (), asleep := some length.nanos }, files)
    | .look next => some ({ c with course := next files }, files)
    | .edit change next => some ({ c with course := next () }, change files)
    | .work next => some ({ c with course := next () }, files)

/-- Does what a program can do, at most `fuel` things; nothing if it can do nothing. -/
def run : (fuel : Nat) → Child → FileTree → Option (Child × FileTree)
  | 0, _, _ => none
  | fuel + 1, c, files =>
    match c.step files with
    | none => none
    | some (c, files) => some ((run fuel c files).getD (c, files))

end Child

end LintPool
