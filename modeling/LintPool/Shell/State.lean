import LintPool.Program.Routine
import LintPool.Shell.Command

set_option autoImplicit false

/-!
# The state of a shell

A shell has variables, functions and descriptors. A descriptor leads to where the whole program
reads or writes, to a file, or nowhere.

## Main definitions

* `LintPool.Shell.State` — the state of a shell.
* `LintPool.Shell.Act` — something that a shell does.
-/

namespace LintPool.Shell

/-- Where a descriptor for writing leads to. -/
inductive Outlet where
  /-- Where the whole program writes. -/
  | sink (s : Sink)
  /-- The end of a file. -/
  | file (path : Path)
  /-- Nowhere: what is written is lost. -/
  | nowhere
  /-- It is closed. -/
  | closed
  deriving Repr, DecidableEq

/-- Where a shell reads from. -/
inductive Source where
  /-- Where the whole program reads. -/
  | outside
  /-- What is left of a file. -/
  | bytes (rest : Bytes)
  deriving Repr, DecidableEq

/-- A variable. -/
structure Variable where
  /-- The name. -/
  name : Letters
  /-- The value, if it has one. -/
  value : Option Letters
  /-- Whether programs that the shell starts get it too. -/
  exported : Bool
  /-- Whether it keeps its value for good. -/
  constant : Bool
  deriving Repr, DecidableEq

/-- A command that nobody waits for: it runs when the shell waits for it, or ends. -/
structure Job where
  /-- Its number. -/
  number : Nat
  /-- What it does. -/
  course : Routine Ending
  /-- How it ended, if it has. -/
  ending : Option Ending

/-- The state of a shell. -/
structure State where
  /-- The name that the shell was started by. -/
  name : Letters
  /-- The parameters. -/
  parameters : List Letters
  /-- The variables. -/
  bindings : List Variable
  /-- The functions. -/
  functions : List (Letters × Command)
  /-- The code that the last command ended with. -/
  status : Nat
  /-- The code of the last script whose output was put into the command that runs, if there is
  one. -/
  outputStatus : Option Nat
  /-- What stands before a complaint: the command of the shell that runs, if one does. -/
  speaker : Letters
  /-- Whether a command that fails ends the shell. -/
  stopsOnFailure : Bool
  /-- Whether that does not hold at the moment, since somebody asks whether a command fails. -/
  excused : Bool
  /-- Whether a variable without a value ends the shell. -/
  needsValues : Bool
  /-- Whether patterns are not replaced by the names of files. -/
  keepsPatterns : Bool
  /-- Whether commands are shown before they run. -/
  shows : Bool
  /-- The scripts that signals run; zero stands for the end of the shell. -/
  traps : List (Nat × Letters)
  /-- The number of loops that run. -/
  loops : Nat
  /-- The variables of the function that runs as they were before, if one runs. -/
  locals : Option (List (Letters × Option Variable))
  /-- The commands that nobody waits for. -/
  jobs : List Job
  /-- The line of the command that runs. -/
  line : Nat
  /-- The current folder. -/
  folder : Address
  /-- Where it reads from. -/
  input : Source
  /-- Where descriptors for writing lead to. -/
  outlets : List (Nat × Outlet)

/-- Why a shell does not go on with its commands. -/
inductive Halt where
  /-- It ends. -/
  | exit (code : Nat)
  /-- Something is wrong that ends it, unless a command of the shell met it. -/
  | fault
  /-- A signal ends it. -/
  | killed (signal : Nat)
  /-- The function that runs is over. -/
  | return (code : Nat)
  /-- So many loops are over. -/
  | leave (loops : Nat)
  /-- All but one of so many loops are over, and that one goes on with its next round. -/
  | again (loops : Nat)
  deriving Repr, DecidableEq

/-- Something that a shell does. -/
abbrev Act := ExceptT Halt (StateT State Routine)

namespace Act

/-- What a program does that is no shell. -/
def outside {α : Type} (r : Routine α) : Act α := ExceptT.lift (StateT.lift r)

/-- Does something in a shell of its own; what becomes of it tells how it ended. -/
def inOwnShell (act : Act Nat) (s : State) : Routine Ending := do
  match (← (act.run s)).1 with
  | .ok code => return .exited (code % 256)
  | .error (.exit code) => return .exited (code % 256)
  | .error (.return code) => return .exited (code % 256)
  | .error (.killed signal) => return .killed signal
  | .error .fault => return .exited 2
  | .error _ => return .exited 0

end Act

namespace State

/-- The variable of a name. -/
def binding? (s : State) (name : Letters) : Option Variable :=
  s.bindings.find? (·.name = name)

/-- The value of a variable. -/
def lookup? (s : State) (name : Letters) : Option Letters :=
  (s.binding? name).bind Variable.value

/-- The state with a variable changed, which is new if there is none. -/
def changeVariable (s : State) (name : Letters) (f : Variable → Variable) : State :=
  { s with bindings :=
      if (s.binding? name).isSome then s.bindings.map fun v => if v.name = name then f v else v
      else s.bindings ++ [f ⟨name, none, false, false⟩] }

/-- The state with a variable set, which stays exported if it is. -/
def setVariable (s : State) (name value : Letters) : State :=
  s.changeVariable name fun v => { v with value := some value }

/-- The state with a variable exported. -/
def exportVariable (s : State) (name : Letters) : State :=
  s.changeVariable name fun v => { v with exported := true }

/-- The state with a variable that keeps its value for good. -/
def makeConstant (s : State) (name : Letters) : State :=
  s.changeVariable name fun v => { v with constant := true }

/-- The state with a variable as it was before. -/
def restoreVariable (s : State) (name : Letters) (before : Option Variable) : State :=
  { s with bindings := s.bindings.filter (·.name ≠ name) ++ before.toList }

/-- Whether a variable keeps its value for good. -/
def isConstant (s : State) (name : Letters) : Bool := (s.binding? name).any Variable.constant

/-- The state without a variable. -/
def unsetVariable (s : State) (name : Letters) : State := s.restoreVariable name none

/-- The variables that programs get which the shell starts. -/
def environment (s : State) : List (Letters × Letters) :=
  (s.bindings.filter Variable.exported).filterMap fun v => v.value.map fun value => (v.name, value)

/-- Where a descriptor for writing leads to. -/
def outlet (s : State) (descriptor : Nat) : Outlet :=
  ((s.outlets.find? (·.1 = descriptor)).map (·.2)).getD .closed

/-- The state with a descriptor that leads elsewhere. -/
def setOutlet (s : State) (descriptor : Nat) (p : Outlet) : State :=
  { s with outlets := (descriptor, p) :: s.outlets.filter (·.1 ≠ descriptor) }

/-- The path of some characters. -/
def path (cs : Letters) : Path := ⟨textOf cs⟩

end State

/-- The state of the shell. -/
def state : Act State := ExceptT.lift StateT.get

/-- Changes the state of the shell. -/
def update (f : State → State) : Act Unit := ExceptT.lift (StateT.modifyGet fun s => ((), f s))

/-- Stops. -/
def halt {α : Type} (h : Halt) : Act α := ExceptT.mk (pure (.error h))

/-- The files as the shell sees them. -/
def files : Act FileTree := do
  let s ← state
  return (← Act.outside Routine.files).seenAt s.folder

/-- Changes files. -/
def changeFiles (f : FileTree → FileTree) : Act Unit := do
  let s ← state
  Act.outside (Routine.change fun t => t.changedAt s.folder f)

/-- The tree with bytes added to the end of a file. -/
def appendTo (path : Path) (bytes : Bytes) (t : FileTree) : FileTree :=
  let old := (t.read path).toOption.getD []
  (t.writeFile path (old ++ bytes) 0).toOption.getD t

/-- Writes bytes to a descriptor; whether that was possible. -/
def emit (descriptor : Nat) (bytes : Bytes) : Act Bool := do
  let s ← state
  match s.outlet descriptor with
  | .sink k => Act.outside (Routine.write k bytes); return true
  | .file p => changeFiles (appendTo p bytes); return true
  | .nowhere => return true
  | .closed => return false

/-- Writes text to a descriptor; the code for whether that was possible. -/
def say (descriptor : Nat) (cs : Letters) : Act Nat := do
  return if ← emit descriptor (bytesOf cs) then 0 else 1

/-- Reads at most so many bytes; none at the end. -/
def take (most : Nat) : Act Bytes := do
  let s ← state
  match s.input with
  | .outside => Act.outside (Routine.read most)
  | .bytes rest =>
    update fun s => { s with input := .bytes (rest.drop most) }
    return rest.take most

/-- The name of the end of the shell among the signals. -/
def endOfShell : Nat := 0

/-- Writes a complaint, which begins with the name of the shell, the line and the command. -/
def complain (cs : Letters) : Act Unit := do
  let s ← state
  let _ ← say 2 (s.name ++ lettersOfText s!": {s.line}: " ++ s.speaker ++ cs ++ ['\n'])

/-- Gives up with a complaint. -/
def giveUp {α : Type} (what : Letters) : Act α := do
  complain what
  halt .fault

/-- Does something and restores a part of the state afterwards, however it ends; `restore` takes
that part from its first argument. -/
def keeping {α : Type} (restore : State → State → State) (act : Act α) : Act α := do
  let before ← state
  let a ← tryCatch act fun h => do
    update (restore before)
    halt h
  update (restore before)
  return a

/-- Does something as a command of a name, with which complaints begin meanwhile. -/
def speakingAs {α : Type} (name : Letters) (act : Act α) : Act α :=
  keeping (fun before s => { s with speaker := before.speaker }) do
    update fun s => { s with speaker := name ++ ": ".toList }
    act

/-- Gives a variable a value, unless it keeps its value for good. -/
def assign (name value : Letters) : Act Unit := do
  if (← state).isConstant name then giveUp (name ++ ": is read only".toList)
  update fun s => s.setVariable name value

/-- Runs a program with the descriptors of the shell. -/
def host {α : Type} : Routine α → Act α
  | .done a => pure a
  | .receive most next => do host (next (← take most))
  | .send .output bytes next => do
    let _ ← emit 1 bytes
    host (next ())
  | .send .errors bytes next => do
    let _ ← emit 2 bytes
    host (next ())
  | .close _ next => host (next ())
  | .pause length next => do
    Act.outside (.pause length fun _ => .done ())
    host (next ())
  | .look next => do host (next (← Act.outside Routine.files))
  | .edit change next => do
    Act.outside (Routine.change change)
    host (next ())
  | .work next => do
    Act.outside (.work fun _ => .done ())
    host (next ())

/-- The code by which a shell reports an ending. -/
def codeOf : Ending → Nat
  | .exited code => code
  | .killed signal => 128 + signal

end LintPool.Shell
