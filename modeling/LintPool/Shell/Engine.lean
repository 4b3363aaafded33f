import LintPool.Shell.State
import LintPool.Shell.Pattern

set_option autoImplicit false

/-!
# How a shell runs and ends

A shell runs commands and scripts; when it ends, it first runs the script that it has been given for
its end, and then the commands that nobody has waited for.

## Main definitions

* `LintPool.Shell.Engine` — how a shell runs commands and scripts.
* `LintPool.Shell.ownShell` — a shell of its own, from beginning to end.
* `LintPool.Shell.signalled` — what a signal to itself does to a shell.
-/

namespace LintPool.Shell

/-- The programs that a shell can start. -/
structure Programs where
  /-- The path of the program that a name calls, for somebody with these variables and files. -/
  find : Letters → List (Letters × Letters) → FileTree → Option Letters
  /-- Starts a program: its name, its arguments, the variables that it gets, its folder and the
  files. -/
  start : Letters → List Letters → List (Letters × Letters) → Address → FileTree →
    Except AccessError (Routine Ending)

/-- How a shell runs commands, scripts and programs. -/
structure Engine where
  /-- Runs a command. -/
  command : Command → Act Nat
  /-- Runs a loop of which the last round ended with a code. -/
  loop : (untilSuccess : Bool) → (condition body : List Command) → (code : Nat) → Act Nat
  /-- Runs a script. -/
  script : Letters → Act Nat
  /-- Puts values into the pieces of a word that stands in another. -/
  marks : Word → Act (List Mark)
  /-- The programs that it can start. -/
  programs : Programs

/-- The code of a shell that is stopped, unless a signal stops it. -/
def codeOfHalt (status : Nat) : Halt → Except Nat Nat
  | .exit code => .ok code
  | .fault => .ok 2
  | .return code => .ok code
  | .killed signal => .error signal
  | .leave _ => .ok status
  | .again _ => .ok status

/-- Does something; yields the code that it ends with, unless a signal ends the shell. -/
def untilStopped (act : Act Nat) : Act Nat :=
  tryCatch act fun h => do
    match codeOfHalt (← state).status h with
    | .ok code => return code
    | .error signal => halt (.killed signal)

/-- Runs a job unless it has ended; how it ended. -/
def runJob (j : Job) : Act Ending := do
  match j.ending with
  | some ending => return ending
  | none =>
    let ending ← Act.outside j.course
    update fun s => { s with jobs := s.jobs.map fun k =>
      if k.number = j.number then { k with ending := some ending } else k }
    return ending

/-- Runs all jobs that have not run yet. -/
def runJobs : List Job → Act Unit
  | [] => return
  | j :: rest => do
    let _ ← runJob j
    runJobs rest

/-- Runs the script for the end of the shell, if there is one; yields the code of the shell. -/
def runLastScript (e : Engine) (code : Nat) : Act Nat := do
  match (← state).traps.find? (·.1 = endOfShell) with
  | none => return code
  | some (_, script) =>
    update fun s => { s with traps := s.traps.filter (·.1 ≠ endOfShell), status := code }
    tryCatch (do let _ ← e.script script; return code) fun h =>
      match h with
      | .exit n => return n
      | .fault => return 2
      | .killed signal => halt (.killed signal)
      | _ => return code

/-- Runs a shell to its end. -/
def toTheEnd (e : Engine) (act : Act Nat) : Act Nat := do
  let code ← untilStopped act
  let code ← runLastScript e code
  runJobs (← state).jobs
  return code

/-- The state that a shell of its own begins with: signals that are ignored still are. -/
def State.ofOwn (s : State) : State :=
  { s with traps := s.traps.filter (·.2.isEmpty), jobs := [] }

/-- A shell of its own, from beginning to end. -/
def ownShell (e : Engine) (act : Act Nat) (s : State) : Routine Ending :=
  Act.inOwnShell (toTheEnd e act) s.ofOwn

/-- A shell that has sent itself a signal: it runs the script for it, if there is one. -/
def signalled (e : Engine) (signal : Nat) : Act Nat := do
  let s ← state
  match if signal = 9 then none else s.traps.find? (·.1 = signal) with
  | none => halt (.killed signal)
  | some (_, script) =>
    if !script.isEmpty then
      let _ ← e.script script
    update fun after => { after with status := s.status }
    return 0

end LintPool.Shell
