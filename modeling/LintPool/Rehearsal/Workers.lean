import LintPool.Record.Options
import LintPool.Registry.Run
import LintPool.Worker.Finding

set_option autoImplicit false

/-!
# Workers that do as they are told

To try out a registry one needs workers whose answers are known beforehand. These do what the
direction that stands when a call reaches them says; they count what is asked of them.

## Main definitions

* `LintPool.Direction` — what a worker is to do.
* `LintPool.Troupe` — the workers, the direction and the counts.
* `LintPool.Troupe.world` — the troupe as the world of a registry.
-/

namespace LintPool

/-- What a worker is to do with a call. -/
inductive Direction where
  | succeed
  | notFound
  | crash
  | fail
  | unavailable
  deriving Repr, DecidableEq, Inhabited

/-- A worker: what it was created for, and whether it has gone down. -/
structure Player where
  /-- The context that it was created for. -/
  context : WorkerContext
  /-- Whether it has gone down. -/
  down : Bool
  deriving Repr

/-- The workers, the direction and the counts. -/
structure Troupe where
  /-- The workers by number. -/
  players : List Player
  /-- What workers are to do. -/
  direction : Direction
  /-- Whether creating a worker is to fail. -/
  createFails : Bool
  /-- The number of calls that reached a worker. -/
  calls : Nat
  /-- The number of workers that were up when they were disposed of. -/
  disposals : Nat
  /-- What was last sent to a worker. -/
  received : Option Json
  /-- The time. -/
  clock : Instant
  deriving Repr

namespace Troupe

/-- No worker yet. -/
def start (clock : Instant) : Troupe := ⟨[], .succeed, false, 0, 0, none, clock⟩

/-- Whether a worker has gone down. -/
def isDown (t : Troupe) (id : WorkerId) : Bool :=
  match t.players[id]? with
  | some p => p.down
  | none => false

/-- The number of workers that are up. -/
def live (t : Troupe) : Nat :=
  (t.players.filter fun p => !p.down).length

/-- A worker goes down. -/
def takeDown (t : Troupe) (id : WorkerId) : Troupe :=
  match t.players[id]? with
  | some p => { t with players := t.players.set id { p with down := true } }
  | none => t

/-- Creates a worker, or fails as directed. -/
def create (c : WorkerContext) (t : Troupe) : Except WorkerError WorkerId × Troupe :=
  if t.createFails then (.error (.crashed c.workerRoot "node not found in PATH"), t)
  else (.ok t.players.length, { t with players := t.players ++ [⟨c, false⟩] })

/-- Disposes of a worker, which counts if it is up. -/
def dispose (id : WorkerId) (t : Troupe) : Troupe :=
  if t.isDown id then t else { t.takeDown id with disposals := t.disposals + 1 }

/-- What a worker that succeeds finds. -/
def success (id : WorkerId) : Task → Finding
  | .lint => .outcome ⟨⟨"/fake/stylelint/lib/index.mjs"⟩, .object [("worker", .ofNat id)]⟩
  | .resolve =>
    .linter ⟨⟨"/fake/stylelint"⟩, ⟨"/fake/stylelint/lib/index.mjs"⟩, some s!"worker-{id}"⟩

/-- What a worker of a root makes of a task when it follows a direction. -/
def outcome (root : Path) (id : WorkerId) (task : Task) : Direction → CallResult
  | .succeed => .ok (some (success id task))
  | .notFound => .ok none
  | .crash => .error (.crashed root "worker exited with code 1")
  | .fail => .error (.failed "No configuration provided")
  | .unavailable => .error (.unavailable root (.ofSeconds 7) true)

/-- A task reaches a worker, which follows the direction that stands. -/
def work (task : Task) (params : Json) (id : WorkerId) (t : Troupe) : CallResult × Troupe :=
  let root := match t.players[id]? with
    | some p => p.context.workerRoot
    | none => ⟨""⟩
  (outcome root id task t.direction, { t with calls := t.calls + 1, received := some params })

/-- The troupe as the world of a registry. -/
def world : World Troupe where
  create := create
  dispose := dispose
  down := isDown
  now := fun t => t.clock

end Troupe

end LintPool
