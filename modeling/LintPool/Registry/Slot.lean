import LintPool.Cache.Basic
import LintPool.Health.Basic
import LintPool.Worker.Context

set_option autoImplicit false

/-!
# Slots: one to a worker root

A slot holds the worker of a root, if there is one, the health of the root, and the workspace
folders through which the root was reached. Health outlives the worker. A slot goes when the last
of its folders is torn down.

## Main definitions

* `LintPool.LiveWorker` — a worker in a slot, and the environment it was started for.
* `LintPool.Slot` — the state of a root.
* `LintPool.Slots` — the slots by root.
-/

namespace LintPool

/-- The number of a worker: workers are numbered as they are created. -/
abbrev WorkerId := Nat

/-- A worker in a slot, and the environment it was started for. -/
structure LiveWorker where
  /-- The worker. -/
  id : WorkerId
  /-- The fingerprint of its environment. -/
  environmentKey : Option EnvironmentKey
  /-- The Plug'n'Play configuration it was started with. -/
  pnp : Option PnpConfiguration
  deriving Repr, DecidableEq

/-- A worker started for a context. -/
def LiveWorker.ofContext (id : WorkerId) (c : WorkerContext) : LiveWorker :=
  ⟨id, c.environmentKey, c.pnp⟩

/-- Whether a worker is fit for a context: it was started for the same environment, and it has not
gone down. -/
def LiveWorker.serves (down : WorkerId → Bool) (w : LiveWorker) (c : WorkerContext) : Bool :=
  w.environmentKey = c.environmentKey && samePnp w.pnp c.pnp && !down w.id

/-- The state of a root. -/
structure Slot where
  /-- The workspace folders through which the root was reached. -/
  folders : List Location
  /-- The worker of the root. -/
  worker : Option LiveWorker
  /-- The health of the root. -/
  health : Health
  deriving Repr, DecidableEq

namespace Slot

/-- The slot of a root that is reached for the first time. -/
def ofFolder (folder : Location) : Slot := ⟨[folder], none, .fresh⟩

/-- Whether a root was reached through a folder. -/
def belongsTo (s : Slot) (folder : Location) : Bool :=
  s.folders.contains folder

/-- Notes that a root was reached through a folder. -/
def claim (s : Slot) (folder : Location) : Slot :=
  if s.belongsTo folder then s else { s with folders := s.folders ++ [folder] }

/-- Forgets that a root was reached through a folder. -/
def release (s : Slot) (folder : Location) : Slot :=
  { s with folders := s.folders.filter (· ≠ folder) }

/-- Whether a path lies in one of the folders. -/
def contains (s : Slot) (path : Location) : Bool :=
  s.folders.any (·.isPrefixOf path)

end Slot

/-- The slots by root, at most one to a root. -/
abbrev Slots := List (Location × Slot)

namespace Slots

/-- The slot of a root. -/
def at? (slots : Slots) (root : Location) : Option Slot :=
  (slots.find? (·.1 = root)).map (·.2)

/-- The slots with the one of a root set. -/
def set (root : Location) (slot : Slot) : Slots → Slots
  | [] => [(root, slot)]
  | (r, s) :: rest => if r = root then (r, slot) :: rest else (r, s) :: set root slot rest

end Slots

end LintPool
