import LintPool.Cache.Basic
import LintPool.Search.Pnp

set_option autoImplicit false

/-!
# Remembered Plug'n'Play configurations

## Main definitions

* `LintPool.PnpLoaders` — the remembered configurations.
* `LintPool.PnpLoaders.find` — the configuration that governs a path, remembered or searched for.
-/

namespace LintPool

/-- The remembered configurations. -/
structure PnpLoaders where
  /-- What is remembered. -/
  cache : FileCache (Option PnpConfiguration)
  deriving Repr

namespace PnpLoaders

/-- Nothing remembered. -/
def empty : PnpLoaders := ⟨.empty⟩

/-- The remembered configuration of a path. -/
def known? (l : PnpLoaders) (workspace path : Path) : Option (Option PnpConfiguration) :=
  l.cache.get? (.of workspace path)

/-- Remembers what a search came to. -/
def remember (l : PnpLoaders) (workspace path : Path) (s : PnpSearch) : PnpLoaders :=
  ⟨l.cache.insert (.of workspace path) s.configuration (s.probed.map Path.components)⟩

/-- The configuration that governs a path, remembered or searched for. -/
def find (probe : Probe) (l : PnpLoaders) (workspace path : Path) :
    Except SearchError (Option PnpConfiguration) × PnpLoaders :=
  match l.known? workspace path with
  | some configuration => (.ok configuration, l)
  | none =>
    match findPnp probe path with
    | .error e => (.error e, l)
    | .ok s => (.ok s.configuration, l.remember workspace path s)

/-- Forgets what depends on a path. -/
def invalidate (l : PnpLoaders) (path : Path) : PnpLoaders :=
  ⟨l.cache.invalidate path.components⟩

/-- The number of configurations that depend on a path. -/
def countFor (l : PnpLoaders) (path : Path) : Nat :=
  l.cache.countFor path.components

/-- Forgets the configurations of a workspace folder. -/
def clearWorkspace (l : PnpLoaders) (workspace : Path) : PnpLoaders :=
  ⟨l.cache.clearWorkspace workspace.components⟩

/-- Forgets everything. -/
def clear (_ : PnpLoaders) : PnpLoaders := empty

end PnpLoaders

end LintPool
