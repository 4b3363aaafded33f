import LintPool.Registry.Call

set_option autoImplicit false

/-!
# One call after another

When no two calls overlap, a call runs from its first step to its last. Creating, working and
disposing change the state `σ` of the world.

## Main definitions

* `LintPool.World` — what a registry asks of the world.
* `LintPool.Registry.proceed` — a call from a phase to its end.
* `LintPool.Registry.run` — a call from beginning to end.
* `LintPool.Registry.tearDown` — workers disposed of one after the other.
-/

namespace LintPool

/-- What a registry asks of a world in state `σ`. -/
structure World (σ : Type) where
  /-- Creates a worker. -/
  create : WorkerContext → σ → Except WorkerError WorkerId × σ
  /-- Disposes of a worker. -/
  dispose : WorkerId → σ → σ
  /-- Whether a worker has gone down. -/
  down : σ → WorkerId → Bool
  /-- Reads the clock. -/
  now : σ → Instant

namespace Registry

variable {σ α : Type}

/-- The work of a call on a worker. -/
abbrev Work (σ α : Type) := WorkerId → σ → Except WorkerError α × σ

/-- Takes a call from a phase to its end: whatever it waits for is brought about at once. -/
def proceed (world : World σ) (work : Work σ α) (c : WorkerContext) (phase : Phase α)
    (r : Registry) (s : σ) : Except WorkerError α × Registry × σ :=
  match phase with
  | .finished outcome => (outcome, r, s)
  | .creating =>
    let created := world.create c s
    let next := r.afterCreation (world.down created.2) c created.1
    proceed world work c next.1 next.2 created.2
  | .working worker =>
    let done := work worker s
    let next := r.afterWork c worker done.1
    proceed world work c next.1 next.2 done.2
  | .retiring stale => proceed world work c .creating r (world.dispose stale s)
  | .settling chosen spare => proceed world work c (.working chosen) r (world.dispose spare s)
  | .evicting worker e => proceed world work c (.finished (.error e)) r (world.dispose worker s)
termination_by phase.rank
decreasing_by
  · exact rank_afterCreation ..
  · exact rank_afterWork ..
  all_goals simp [Phase.rank]

/-- Runs a call from beginning to end. -/
def run (world : World σ) (work : Work σ α) (c : WorkerContext) (r : Registry) (s : σ) :
    Except WorkerError α × Registry × σ :=
  let first := r.begin (world.down s) c (world.now s)
  proceed world work c first.1 first.2 s

/-- Disposes of workers one after the other. -/
def tearDown (world : World σ) (workers : List WorkerId) (s : σ) : σ :=
  workers.foldl (fun s w => world.dispose w s) s

end Registry

end LintPool
