import LintPool.Registry.Pool
import LintPool.Rehearsal.Workers

set_option autoImplicit false

/-!
# Calls held at gates

A rehearsal drives one call or teardown at a time and can hold it at a gate: before a worker is
created, after a task has reached a worker, and before a worker is disposed of. A held call makes no
progress until it is resumed, so any order in which calls may overlap can be tried.

## Main definitions

* `LintPool.Gate` — where a call may be held.
* `LintPool.Stage` — the pool, the troupe and what is held.
* `LintPool.Stage.drive` — drives a call or teardown to its end or to a gate.
-/

namespace LintPool

/-- Where a call may be held. -/
inductive Gate where
  | create
  | exec
  | dispose
  deriving Repr, DecidableEq

/-- The name of a gate. -/
def Gate.name : Gate → String
  | .create => "create"
  | .exec => "exec"
  | .dispose => "dispose"

/-- What a task waits for next. -/
inductive Cue where
  | create
  | work (worker : WorkerId)
  | dispose (worker : WorkerId)
  /-- The call is over. -/
  | ended (outcome : CallResult)
  /-- The teardown is over. -/
  | tornDown
  deriving Repr

/-- A call or teardown that is held, the gate, and for a task that has reached a worker what the
worker will answer. -/
structure Held where
  /-- The name that the call or teardown goes by. -/
  name : String
  /-- Its number. -/
  task : TaskId
  /-- What the call asks of a worker. -/
  asks : Task
  /-- The gate. -/
  gate : Gate
  /-- The answer to come. -/
  answer : Option CallResult
  deriving Repr

/-- The pool, the troupe and what is held. -/
structure Stage where
  /-- The registry and the calls. -/
  pool : Pool (Option Finding)
  /-- The workers. -/
  troupe : Troupe
  /-- What is held. -/
  held : List Held
  /-- The number of the next call or teardown. -/
  next : TaskId
  deriving Repr

/-- What driving a call or teardown comes to. -/
inductive Driven where
  | heldAt (gate : Gate)
  | ended (outcome : CallResult)
  | disposed
  deriving Repr

namespace Stage

/-- Nothing has happened yet. -/
def start (s : Settings) (clock : Instant) : Stage :=
  ⟨.ofRegistry (.ofSettings s), .start clock, [], 0⟩

/-- What becomes of the pool. -/
def happen (s : Stage) (e : Pool.Event (Option Finding)) : Stage :=
  { s with pool := s.pool.step s.troupe.isDown e }

/-- What a task waits for next. -/
def cue (s : Stage) (task : TaskId) : Cue :=
  match s.pool.call? task with
  | some (_, .creating) => .create
  | some (_, .working w) => .work w
  | some (_, .retiring w) => .dispose w
  | some (_, .settling _ w) => .dispose w
  | some (_, .evicting w _) => .dispose w
  | some (_, .finished outcome) => .ended outcome
  | none =>
    match s.pool.teardown? task with
    | some (w :: _) => .dispose w
    | _ => .tornDown

/-- Lets a worker be created. -/
def createFor (s : Stage) (task : TaskId) : Stage :=
  match s.pool.call? task with
  | none => s
  | some (c, _) =>
    match s.troupe.create c with
    | (.ok _, troupe) => { s with troupe }.happen (.created task)
    | (.error e, troupe) => { s with troupe }.happen (.notCreated task e)

/-- Lets a worker be disposed of. -/
def disposeFor (s : Stage) (task : TaskId) (w : WorkerId) : Stage :=
  { s with troupe := s.troupe.dispose w }.happen (.disposed task)

/-- Holds a task. -/
def hold (s : Stage) (name : String) (task : TaskId) (asks : Task) (gate : Gate)
    (answer : Option CallResult) : Driven × Stage :=
  (.heldAt gate, { s with held := s.held ++ [⟨name, task, asks, gate, answer⟩] })

/-- Drives a task to its end or to one of the gates, in at most `fuel` steps. -/
def drive (name : String) (task : TaskId) (asks : Task) (gates : List Gate) :
    Nat → Stage → Driven × Stage
  | 0, s => (.disposed, s)
  | fuel + 1, s =>
    match s.cue task with
    | .ended outcome => (.ended outcome, s.happen (.abandoned task))
    | .tornDown => (.disposed, s.happen (.abandoned task))
    | .create =>
      if .create ∈ gates then s.hold name task asks .create none
      else drive name task asks gates fuel (s.createFor task)
    | .dispose w =>
      if .dispose ∈ gates then s.hold name task asks .dispose none
      else drive name task asks gates fuel (s.disposeFor task w)
    | .work w =>
      let (answer, troupe) := s.troupe.work asks .null w
      let s := { s with troupe }
      if .exec ∈ gates then s.hold name task asks .exec (some answer)
      else drive name task asks gates fuel (s.happen (.worked task answer))

/-- More steps than any task can take. -/
def enough (s : Stage) : Nat := s.troupe.players.length + 8

/-- Drops what is held under a name. -/
def abandon (s : Stage) (name : String) : Bool × Stage :=
  match s.held.find? (·.name = name) with
  | none => (false, s)
  | some h =>
    (true, { s with held := s.held.filter (·.name ≠ name) }.happen (.abandoned h.task))

/-- Begins a task under a name and drives it. -/
def begin (s : Stage) (name : String) (asks : Task) (gates : List Gate)
    (event : TaskId → Pool.Event (Option Finding)) : Driven × Stage :=
  let s := (s.abandon name).2
  let task := s.next
  let s := { s with next := task + 1 }.happen (event task)
  s.drive name task asks gates s.enough

/-- Begins a call under a name. -/
def call (s : Stage) (name : String) (c : WorkerContext) (asks : Task) (gates : List Gate) :
    Driven × Stage :=
  s.begin name asks gates fun task => .begin task c s.troupe.clock

/-- Opens the gate that a task is held at and drives it on; nothing if it is not held. -/
def resume (s : Stage) (name : String) (gates : List Gate) : Option (Driven × Stage) :=
  match s.held.find? (·.name = name) with
  | none => none
  | some h =>
    let s := { s with held := s.held.filter (·.name ≠ name) }
    let s := match h.gate, h.answer, s.cue h.task with
      | .exec, some answer, _ => s.happen (.worked h.task answer)
      | .create, _, _ => s.createFor h.task
      | .dispose, _, .dispose w => s.disposeFor h.task w
      | _, _, _ => s
    some (s.drive name h.task h.asks gates s.enough)

end Stage

end LintPool
