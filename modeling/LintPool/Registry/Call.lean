import LintPool.Registry.Basic

set_option autoImplicit false

/-!
# The course of a call

A call waits for one thing at a time: that a worker it took out has been disposed of, that a worker
has been created, that its own work is done. A phase says what it waits for; when that has come
about, one step of the registry leads to the next phase.

## Main definitions

* `LintPool.Phase` — what a call waits for.
* `LintPool.Registry.begin` — the first step of a call.
* `LintPool.Registry.afterCreation`, `LintPool.Registry.afterWork`,
  `LintPool.Phase.afterDisposal` — the steps after each thing that a call waits for.
-/

namespace LintPool

/-- What a call waits for; `α` is what its work yields. -/
inductive Phase (α : Type) where
  /-- The disposal of a worker that was not fit, before a new one is created. -/
  | retiring (stale : WorkerId)
  /-- The creation of a worker. -/
  | creating
  /-- The disposal of a worker that is not needed, before the call runs on the chosen one. -/
  | settling (chosen spare : WorkerId)
  /-- Its work on a worker. -/
  | working (worker : WorkerId)
  /-- The disposal of the worker that crashed, before the call reports the crash. -/
  | evicting (worker : WorkerId) (failure : WorkerError)
  /-- Nothing: it is over. -/
  | finished (outcome : Except WorkerError α)
  deriving Repr

namespace Phase

variable {α : Type}

/-- The worker whose disposal the call waits for. -/
def disposing? : Phase α → Option WorkerId
  | .retiring stale => some stale
  | .settling _ spare => some spare
  | .evicting worker _ => some worker
  | _ => none

/-- A bound for the number of steps that a call has still to take. -/
def rank : Phase α → Nat
  | .retiring _ => 5
  | .creating => 4
  | .settling _ _ => 3
  | .working _ => 2
  | .evicting _ _ => 1
  | .finished _ => 0

/-- The phase after the disposal that the call waited for. -/
def afterDisposal : Phase α → Phase α
  | .retiring _ => .creating
  | .settling chosen _ => .working chosen
  | .evicting _ failure => .finished (.error failure)
  | p => p

end Phase

namespace Registry

variable {α : Type}

/-- The first step of a call: it is let through or turned away, and looks for a worker. -/
def begin (r : Registry) (down : WorkerId → Bool) (c : WorkerContext) (now : Instant) :
    Phase α × Registry :=
  match r.enter c now with
  | (.error e, r) => (.finished (.error e), r)
  | (.ok (), r) =>
    match r.lookup down c with
    | (.fit worker, r) => (.working worker, r)
    | (.stale worker, r) => (.retiring worker, r)
    | (.vacant, r) => (.creating, r)

/-- The phase of a call that has failed, once the failure is recorded. -/
def fail (r : Registry) (c : WorkerContext) (worker : Option WorkerId) (e : WorkerError) :
    Phase α × Registry :=
  match r.recordFailure c.workerRoot.components worker e with
  | (some evicted, r) => (.evicting evicted e, r)
  | (none, r) => (.finished (.error e), r)

/-- The step after a creation: the new worker is put in, or the failure recorded. -/
def afterCreation (r : Registry) (down : WorkerId → Bool) (c : WorkerContext) :
    Except WorkerError WorkerId → Phase α × Registry
  | .error e => r.fail c none e
  | .ok created =>
    match r.install down c created with
    | (.theirs winner, r) => (.settling winner created, r)
    | (.ours (some displaced), r) => (.settling created displaced, r)
    | (.ours none, r) => (.working created, r)

/-- The step after the work: what it came to is recorded. -/
def afterWork (r : Registry) (c : WorkerContext) (worker : WorkerId) :
    Except WorkerError α → Phase α × Registry
  | .ok a => (.finished (.ok a), r.recordSuccess c.workerRoot.components)
  | .error e => r.fail c (some worker) e

/-- After a failure a call has at most a disposal to wait for. -/
theorem rank_fail (r : Registry) (c : WorkerContext) (worker : Option WorkerId) (e : WorkerError) :
    (r.fail c worker e : Phase α × Registry).1.rank < 2 := by
  unfold fail
  split <;> simp [Phase.rank]

/-- A creation brings a call forward. -/
theorem rank_afterCreation (r : Registry) (down : WorkerId → Bool) (c : WorkerContext)
    (created : Except WorkerError WorkerId) :
    (r.afterCreation down c created : Phase α × Registry).1.rank < 4 := by
  unfold afterCreation
  split
  · exact Nat.lt_trans (rank_fail ..) (by decide)
  · split <;> simp [Phase.rank]

/-- Work brings a call forward. -/
theorem rank_afterWork (r : Registry) (c : WorkerContext) (worker : WorkerId)
    (outcome : Except WorkerError α) : (r.afterWork c worker outcome).1.rank < 2 := by
  unfold afterWork
  split
  · simp [Phase.rank]
  · exact rank_fail ..

end Registry

end LintPool
