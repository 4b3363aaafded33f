import LintPool.Registry.Call

set_option autoImplicit false

/-!
# Many calls at once

Calls and teardowns run side by side on one registry. At each moment each of them waits for one
thing, and any of these things may be the next to come about. A teardown disposes of its workers
one after the other.

## Main definitions

* `LintPool.Pool` — the registry, the calls and teardowns under way, and what became of the workers.
* `LintPool.Pool.Event` — what may come about next.
* `LintPool.Pool.step` — what it does.
-/

namespace LintPool

/-- The number of a call or teardown under way. -/
abbrev TaskId := Nat

/-- The registry, the calls and teardowns under way, and what became of the workers. -/
structure Pool (α : Type) where
  /-- The registry. -/
  registry : Registry
  /-- The context that each worker was created for, by the number of the worker. -/
  created : List WorkerContext
  /-- The workers that were passed on for disposal, the latest last. -/
  disposed : List WorkerId
  /-- The calls under way. -/
  calls : List (TaskId × WorkerContext × Phase α)
  /-- The teardowns under way, with the workers they are still to dispose of; the disposal of the
  first of these has begun. -/
  teardowns : List (TaskId × List WorkerId)
  deriving Repr

namespace Pool

variable {α : Type}

/-- What may come about next. -/
inductive Event (α : Type) where
  /-- A call begins. -/
  | begin (task : TaskId) (context : WorkerContext) (now : Instant)
  /-- The creation that a call waits for yields a worker. -/
  | created (task : TaskId)
  /-- The creation that a call waits for fails. -/
  | notCreated (task : TaskId) (e : WorkerError)
  /-- The work that a call waits for is done. -/
  | worked (task : TaskId) (outcome : Except WorkerError α)
  /-- The disposal that a call or teardown waits for is done. -/
  | disposed (task : TaskId)
  /-- Nobody waits for a call or teardown any more. -/
  | abandoned (task : TaskId)
  /-- A folder is torn down. -/
  | release (task : TaskId) (folder : Location)
  /-- Everything is torn down. -/
  | drain (task : TaskId)
  /-- There was activity in a folder. -/
  | workspaceActivity (folder : Location)
  /-- There was activity at a path. -/
  | fileActivity (path : Location)
  deriving Repr

/-- The pool before anything has happened. -/
def ofRegistry (r : Registry) : Pool α := ⟨r, [], [], [], []⟩

/-- The context and phase of a call under way. -/
def call? (p : Pool α) (task : TaskId) : Option (WorkerContext × Phase α) :=
  (p.calls.find? (·.1 = task)).map (·.2)

/-- The workers that a teardown under way is still to dispose of. -/
def teardown? (p : Pool α) (task : TaskId) : Option (List WorkerId) :=
  (p.teardowns.find? (·.1 = task)).map (·.2)

/-- The pool without a call or teardown. -/
def drop (p : Pool α) (task : TaskId) : Pool α :=
  { p with
    calls := p.calls.filter (·.1 ≠ task)
    teardowns := p.teardowns.filter (·.1 ≠ task) }

/-- A call comes to a phase; a disposal that the phase waits for begins. -/
def setCall (p : Pool α) (task : TaskId) (c : WorkerContext) (next : Phase α × Registry) : Pool α :=
  let p := p.drop task
  { p with
    registry := next.2
    calls := p.calls ++ [(task, c, next.1)]
    disposed := p.disposed ++ next.1.disposing?.toList }

/-- A teardown comes to some workers; the disposal of the first begins. -/
def setTeardown (p : Pool α) (task : TaskId) (workers : List WorkerId) : Pool α :=
  let p := p.drop task
  { p with
    teardowns := p.teardowns ++ [(task, workers)]
    disposed := p.disposed ++ workers.head?.toList }

/-- What an event does; events that cannot come about do nothing. The world says which workers have
gone down. -/
def step (down : WorkerId → Bool) (p : Pool α) : Event α → Pool α
  | .begin task c now => p.setCall task c (p.registry.begin down c now)
  | .created task =>
    match p.call? task with
    | some (c, .creating) =>
      let id := p.created.length
      { p with created := p.created ++ [c] }.setCall task c
        (p.registry.afterCreation down c (.ok id))
    | _ => p
  | .notCreated task e =>
    match p.call? task with
    | some (c, .creating) => p.setCall task c (p.registry.afterCreation down c (.error e))
    | _ => p
  | .worked task outcome =>
    match p.call? task with
    | some (c, .working w) => p.setCall task c (p.registry.afterWork c w outcome)
    | _ => p
  | .disposed task =>
    match p.call? task with
    | some (c, phase) =>
      if phase.disposing?.isSome then p.setCall task c (phase.afterDisposal, p.registry) else p
    | none =>
      match p.teardown? task with
      | some (_ :: rest) => p.setTeardown task rest
      | _ => p
  | .abandoned task => p.drop task
  | .release task folder =>
    let (workers, r) := p.registry.release folder
    { p with registry := r }.setTeardown task workers
  | .drain task =>
    let (workers, r) := p.registry.drain
    { p with registry := r }.setTeardown task workers
  | .workspaceActivity folder => { p with registry := (p.registry.workspaceActivity folder).2 }
  | .fileActivity path => { p with registry := (p.registry.fileActivity path).2 }

end Pool

end LintPool
