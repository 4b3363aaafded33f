import LintPool.Search.Lines
import LintPool.Record.Manager
import LintPool.Json.Reader

set_option autoImplicit false

/-!
# The directory of globally installed modules

Each package manager is asked for it by a command. An answer that was found is kept; a failure is
not, so the manager is asked again.

## Main definitions

* `LintPool.Manager.directoryIn` — the directory that a line of a manager's output gives.
* `LintPool.GlobalModules` — the answers that were found.
* `LintPool.GlobalModules.resolve` — asking for a manager's directory.
-/

namespace LintPool

/-- The text of a field of a record. -/
def recordText? (record : Json) (key : String) : Option String :=
  (record.field? key).bind Json.text?

/-- What a line that is not blank says when lines are records: the data of the first record of the
kind `log` is a directory. -/
def directoryInRecord (line : String) : Verdict Path :=
  match Json.ofText line with
  | .error complaint => .rejected s!"malformed JSON record: {complaint.message}"
  | .ok record =>
    if recordText? record "type" = some "log" then
      match (recordText? record "data").map Text.trim with
      | some directory =>
        if directory.isEmpty then .rejected "log record has no data field"
        else .found ⟨directory⟩
      | none => .rejected "log record has no data field"
    else .pass

/-- The directory that a line of a manager's output gives. -/
def Manager.directoryIn (m : Manager) (line : String) : Verdict Path :=
  let line := Text.trim line
  if line.isEmpty then .pass
  else match m with
    | .yarn => directoryInRecord line
    | .npm => .found ⟨line⟩
    | .pnpm => .found ⟨line⟩

/-- The directory of modules below the directory that a manager gives. -/
def Manager.modulesBelow (m : Manager) (directory : Path) : Path :=
  match m with
  | .npm => (directory.join ⟨"lib"⟩).join ⟨"node_modules"⟩
  | .yarn => directory.join ⟨"node_modules"⟩
  | .pnpm => directory

/-- The matcher for a manager's output. -/
def Manager.matcher (m : Manager) : Matcher Unit Path := fun line _ => (m.directoryIn line, ())

/-- The directory of modules that a manager's output gives, if it gives any. -/
def Manager.modulesIn (m : Manager) (t : Transcript) : Option Path :=
  match (findLine m.matcher () m.command.program t).1 with
  | .ok found => found.map m.modulesBelow
  | .error _ => none

/-- The answers that were found. -/
structure GlobalModules where
  /-- The directory of each manager that has been asked with success. -/
  known : List (Manager × Path)
  deriving Repr, DecidableEq

namespace GlobalModules

/-- No manager has been asked. -/
def empty : GlobalModules := ⟨[]⟩

/-- The directory that is known of a manager. -/
def get? (g : GlobalModules) (m : Manager) : Option Path :=
  (g.known.find? (·.1 = m)).map (·.2)

/-- Asks for the directory of a manager; `run` runs its command, unless that cannot be started, and
may change the state `σ` of the world. -/
def resolve {σ : Type} (run : Manager → σ → Option Transcript × σ) (m : Manager)
    (g : GlobalModules) (s : σ) : Option Path × GlobalModules × σ :=
  match g.get? m with
  | some directory => (some directory, g, s)
  | none =>
    let (transcript, s) := run m s
    match transcript.bind m.modulesIn with
    | some directory => (some directory, ⟨g.known ++ [(m, directory)]⟩, s)
    | none => (none, g, s)

end GlobalModules

/-- Runs the command of a manager. -/
def Manager.run (environment : Environment) (m : Manager) (t : FileTree) :
    Option Transcript × FileTree :=
  match (Launch.mk m.command.program m.command.arguments [] none).start environment t with
  | .error _ => (none, t)
  | .ok routine =>
    let (transcript, t) := routine.transcribe [] t
    (some transcript, t)

end LintPool
