import LintPool.Cache.PackageRoots
import LintPool.Search.Pnp

set_option autoImplicit false

/-!
# Searching look by look

The same searches, one look at a time: between two looks the tree may change and other things may
come about.

## Main definitions

* `LintPool.Walk` — a search that waits for what its next look says.
* `LintPool.Walk.run` — what a walk comes to in a tree that stays as it is.
* `LintPool.rootWalk`, `LintPool.loaderWalk` — the searches for a root and for a configuration.
-/

namespace LintPool

/-- A search look by look: what it comes to with the paths that it has looked at, or the next path
to look at and how it goes on. -/
inductive Walk (α : Type) where
  /-- It has come to an end. -/
  | done (result : Except SearchError (α × List Path))
  /-- It looks at a path. -/
  | look (p : Path) (next : Except AccessError Bool → Walk α)

/-- What a walk comes to in a tree that stays as it is. -/
def Walk.run {α : Type} (looks : Probe) : Walk α → Except SearchError (α × List Path)
  | done result => result
  | look p next => (next (looks p)).run looks

/-- Looks at one path after another until there is a file, and goes on from there. -/
def walkAlong {α : Type} (onward : UpwardSearch → Walk α) : List Path → Walk α
  | [] => onward ⟨none, []⟩
  | p :: rest => .look p fun
    | .error e => .done (.error ⟨p, e⟩)
    | .ok true => onward ⟨some p, [p]⟩
    | .ok false => walkAlong (fun s => onward { s with probed := p :: s.probed }) rest

/-- The search for the root of a path. -/
def rootWalk (marker : String) (workspace path : Path) : Walk (Option Path) :=
  walkAlong (fun s => .done (.ok (PackageRoots.rootOf workspace s, s.probed)))
    (candidates path [marker])

/-- What follows the search for a register script: a look at the loader beside it. -/
def loaderOnward : UpwardSearch → Walk (Option PnpConfiguration)
  | ⟨none, probed⟩ => .done (.ok (none, probed))
  | ⟨some register, probed⟩ =>
    let loader := register.sibling loaderName
    .look loader fun
      | .error e => .done (.error ⟨loader, e⟩)
      | .ok there =>
        .done (.ok (some ⟨register, if there then some loader else none⟩, probed ++ [loader]))

/-- The search for the configuration of a path. -/
def loaderWalk (_workspace path : Path) : Walk (Option PnpConfiguration) :=
  walkAlong loaderOnward (candidates path registerNames)

end LintPool
