import LintPool.Search.Upward
import LintPool.Record.Outcome

set_option autoImplicit false

/-!
# Searching for a Plug'n'Play configuration

The nearest register script governs a path; the newer of its two names wins within a folder. The
loader is looked for beside the script, and that look is recorded too.

## Main definitions

* `LintPool.registerNames`, `LintPool.loaderName` — the names of the scripts.
* `LintPool.PnpSearch` — what a search comes to.
* `LintPool.findPnp` — the search.
-/

namespace LintPool

/-- The names of the register script, the newer one first. -/
def registerNames : List String := [".pnp.cjs", ".pnp.js"]

/-- The name of the loader. -/
def loaderName : String := ".pnp.loader.mjs"

/-- What a search for a configuration comes to. -/
structure PnpSearch where
  /-- The configuration that governs the path, if there is one. -/
  configuration : Option PnpConfiguration
  /-- The paths that were looked at, in order. -/
  probed : List Path
  deriving Repr, DecidableEq

/-- Searches from `start` upward for a Plug'n'Play configuration. -/
def findPnp (probe : Probe) (start : Path) : Except SearchError PnpSearch :=
  match findUpward probe start registerNames with
  | .error e => .error e
  | .ok ⟨none, probed⟩ => .ok ⟨none, probed⟩
  | .ok ⟨some register, probed⟩ =>
    let loader := register.sibling loaderName
    match probe loader with
    | .error e => .error ⟨loader, e⟩
    | .ok there =>
      .ok ⟨some ⟨register, if there then some loader else none⟩, probed ++ [loader]⟩

end LintPool
