import LintPool.Registry.Slot

set_option autoImplicit false

/-!
# The registry of workers

The registry keeps one worker to a root and counts the crashes of each root. Every operation here
is one step that nothing interrupts; creating a worker, running a call and disposing of a worker
take place between such steps. Whether a worker has gone down is asked of the world: it may happen
at any time.

## Main definitions

* `LintPool.Registry` — the policy and the slots.
* `LintPool.Registry.enter` — a call asks to be let through.
* `LintPool.Registry.lookup` — a call looks for a fit worker, and takes out one that is not fit.
* `LintPool.Registry.install` — a call puts in the worker that was created for it, unless another
  call was faster.
* `LintPool.Registry.recordSuccess`, `LintPool.Registry.recordFailure` — what a call came to.
* `LintPool.Registry.release`, `LintPool.Registry.drain` — roots are forgotten.
* `LintPool.Registry.workspaceActivity`, `LintPool.Registry.fileActivity` — crashed roots get
  another chance.
-/

namespace LintPool

/-- The policy and the slots. -/
structure Registry where
  /-- When a crashing root is left alone, and how long. -/
  policy : CrashPolicy
  /-- The slots by root. -/
  slots : Slots
  deriving Repr, DecidableEq

namespace Registry

/-- The registry without any root. -/
def ofSettings (s : Settings) : Registry := ⟨.ofSettings s, []⟩

/-- The slot of a context's root, a new one if the root has none. -/
def slotFor (r : Registry) (c : WorkerContext) : Slot :=
  (r.slots.at? c.workerRoot.components).getD (.ofFolder c.workspaceFolder.components)

/-- The registry with the slot of a context's root set. -/
def setSlot (r : Registry) (c : WorkerContext) (s : Slot) : Registry :=
  { r with slots := r.slots.set c.workerRoot.components s }

/-- A call notes the folder that it came through and asks to be let through. -/
def enter (r : Registry) (c : WorkerContext) (now : Instant) : Except WorkerError Unit × Registry :=
  let slot := (r.slotFor c).claim c.workspaceFolder.components
  let (verdict, health) := slot.health.consider r.policy c.workerRoot now
  (verdict, r.setSlot c { slot with health })

/-- What a call finds in the slot of its root. -/
inductive Lookup where
  /-- A fit worker. -/
  | fit (worker : WorkerId)
  /-- A worker that is not fit; the call has taken it out. -/
  | stale (worker : WorkerId)
  /-- No worker. -/
  | vacant
  deriving Repr, DecidableEq

/-- A call looks for a fit worker, and takes out one that is not fit. -/
def lookup (r : Registry) (down : WorkerId → Bool) (c : WorkerContext) : Lookup × Registry :=
  let slot := r.slotFor c
  match slot.worker with
  | some w =>
    if w.serves down c then (.fit w.id, r.setSlot c slot)
    else (.stale w.id, r.setSlot c { slot with worker := none })
  | none => (.vacant, r.setSlot c slot)

/-- What comes of the worker that was created for a call. -/
inductive Installed where
  /-- It is in the slot; a worker that was there is out. -/
  | ours (displaced : Option WorkerId)
  /-- It is not needed, for another call has put in a fit worker meanwhile. -/
  | theirs (winner : WorkerId)
  deriving Repr, DecidableEq

/-- A call puts in the worker that was created for it, unless a fit one is there. -/
def install (r : Registry) (down : WorkerId → Bool) (c : WorkerContext) (created : WorkerId) :
    Installed × Registry :=
  let slot := r.slotFor c
  match slot.worker with
  | some w =>
    if w.serves down c then (.theirs w.id, r.setSlot c slot)
    else (.ours (some w.id), r.setSlot c { slot with worker := some (.ofContext created c) })
  | none => (.ours none, r.setSlot c { slot with worker := some (.ofContext created c) })

/-- A call succeeded: its root is healthy. -/
def recordSuccess (r : Registry) (root : Location) : Registry :=
  match r.slots.at? root with
  | some s => { r with slots := r.slots.set root { s with health := s.health.recordSuccess } }
  | none => r

/-- A call failed. If it was a crash, it is counted, and the worker that the call ran on is taken
out if it is still in its slot. -/
def recordFailure (r : Registry) (root : Location) (worker : Option WorkerId) (e : WorkerError) :
    Option WorkerId × Registry :=
  if !e.isCrash then (none, r)
  else match r.slots.at? root with
    | none => (none, r)
    | some s =>
      let s := { s with health := s.health.recordCrash }
      if worker.isSome && s.worker.map (·.id) = worker then
        (worker, { r with slots := r.slots.set root { s with worker := none } })
      else (none, { r with slots := r.slots.set root s })

/-- Whether a slot is claimed by one folder alone. -/
def claimedOnlyBy (folder : Location) (s : Slot) : Bool :=
  s.belongsTo folder && (s.release folder).folders.isEmpty

/-- The workers of some slots. -/
def workersOf (slots : Slots) : List WorkerId :=
  slots.filterMap fun s => s.2.worker.map (·.id)

/-- A folder gives up its claims: the roots that no other folder uses are forgotten, and their
workers are to be disposed of. -/
def release (r : Registry) (folder : Location) : List WorkerId × Registry :=
  let (gone, kept) := r.slots.partition fun s => claimedOnlyBy folder s.2
  (workersOf gone, { r with slots := kept.map fun s => (s.1, s.2.release folder) })

/-- All roots are forgotten, and all workers are to be disposed of. -/
def drain (r : Registry) : List WorkerId × Registry :=
  (workersOf r.slots, { r with slots := [] })

/-- The roots that match and are not healthy are made healthy. -/
def resetWhere (r : Registry) (applies : Slot → Bool) : Registry :=
  { r with
    slots := r.slots.map fun s =>
      if applies s.2 && !s.2.health.isHealthy then
        (s.1, { s.2 with health := s.2.health.recordSuccess })
      else s }

/-- The number of roots that match and are not healthy. -/
def countWhere (r : Registry) (applies : Slot → Bool) : Nat :=
  (r.slots.filter fun s => applies s.2 && !s.2.health.isHealthy).length

/-- A document was opened or a folder added: the roots reached through the folder get another
chance. -/
def workspaceActivity (r : Registry) (folder : Location) : Nat × Registry :=
  (r.countWhere (·.belongsTo folder), r.resetWhere (·.belongsTo folder))

/-- A file changed: the roots reached through a folder that contains it get another chance. -/
def fileActivity (r : Registry) (path : Location) : Nat × Registry :=
  (r.countWhere (·.contains path), r.resetWhere (·.contains path))

/-- The health of a root. -/
def health? (r : Registry) (root : Location) (now : Instant) : Option HealthReport :=
  (r.slots.at? root).map (·.health.report now)

/-- The workers in slots that have not gone down. -/
def running (r : Registry) (down : WorkerId → Bool) : List WorkerId :=
  (workersOf r.slots).filter fun w => !down w

end Registry

end LintPool
