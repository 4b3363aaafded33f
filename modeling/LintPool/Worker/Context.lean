import LintPool.Record.Outcome

set_option autoImplicit false

/-!
# What a worker is for

## Main definitions

* `LintPool.EnvironmentKey` — a fingerprint of the files that decide what a worker would load.
* `LintPool.WorkerContext` — the folder, the root and the environment of a request.
-/

namespace LintPool

/-- A fingerprint of the files that decide what a worker would load; two are only ever compared. -/
abbrev EnvironmentKey := String

/-- The folder, the root and the environment of a request. -/
structure WorkerContext where
  /-- The folder that the client has open. -/
  workspaceFolder : Path
  /-- The directory that the worker runs in; it picks the worker. -/
  workerRoot : Path
  /-- The Plug'n'Play configuration that governs the root. -/
  pnp : Option PnpConfiguration
  /-- The fingerprint of the environment, if it is known. -/
  environmentKey : Option EnvironmentKey
  deriving Repr, DecidableEq

/-- The scripts of two optional configurations are the same. -/
def samePnp : Option PnpConfiguration → Option PnpConfiguration → Bool
  | none, none => true
  | some a, some b => decide (a.Same b)
  | _, _ => false

/-- A configuration has the same scripts as itself. -/
theorem samePnp_refl (p : Option PnpConfiguration) : samePnp p p = true := by
  cases p with
  | none => rfl
  | some p => exact decide_eq_true ⟨rfl, rfl⟩

/-- Two contexts are the same, paths compared by their components. -/
def WorkerContext.same (a b : WorkerContext) : Bool :=
  decide (a.workspaceFolder.Same b.workspaceFolder) && decide (a.workerRoot.Same b.workerRoot)
    && samePnp a.pnp b.pnp && a.environmentKey = b.environmentKey

end LintPool
