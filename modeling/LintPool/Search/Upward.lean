import LintPool.FileTree.Walk

set_option autoImplicit false

/-!
# Searching upward

A search looks for the nearest marker file: in a folder, in the folder above it, and so on, several
names being tried in order in each folder. It records every path that it looked at, because a file
that appears or vanishes at one of these is what can change the answer. A path at which nothing is,
or which leads through a file, is passed over; any other failure to look ends the search.

## Main definitions

* `LintPool.Probe` — how a search looks at a path.
* `LintPool.candidates` — the paths that a search looks at, in order.
* `LintPool.UpwardSearch` — what a search comes to.
* `LintPool.findUpward` — the search.
-/

namespace LintPool

/-- Says whether there is a file at a path, or why that cannot be told. -/
abbrev Probe := Path → Except AccessError Bool

/-- A path that could not be looked at, and why. -/
structure SearchError where
  /-- The path. -/
  path : Path
  /-- Why. -/
  cause : AccessError
  deriving Repr, DecidableEq

/-- The wording of a search error. -/
def SearchError.message (e : SearchError) : String :=
  s!"Failed to inspect {e.path.text}: {e.cause.message}"

/-- What a search comes to. -/
structure UpwardSearch where
  /-- The marker file that ended the search. -/
  found : Option Path
  /-- The paths that were looked at, in order. -/
  probed : List Path
  deriving Repr, DecidableEq

/-- The folder of the marker file. -/
def UpwardSearch.directory (s : UpwardSearch) : Option Path :=
  s.found.bind Path.parent?

/-- The paths that a search from `start` looks at, in order. -/
def candidates (start : Path) (names : List String) : List Path :=
  start.ancestors.flatMap fun folder => names.map fun name => folder.join ⟨name⟩

/-- Looks at one path after another until there is a file. -/
def searchAlong (probe : Probe) : List Path → Except SearchError UpwardSearch
  | [] => .ok ⟨none, []⟩
  | p :: rest =>
    match probe p with
    | .error e => .error ⟨p, e⟩
    | .ok true => .ok ⟨some p, [p]⟩
    | .ok false =>
      match searchAlong probe rest with
      | .ok s => .ok { s with probed := p :: s.probed }
      | .error e => .error e

/-- Searches from `start` upward for a file of one of the names. -/
def findUpward (probe : Probe) (start : Path) (names : List String) :
    Except SearchError UpwardSearch :=
  searchAlong probe (candidates start names)

/-- Searches from `start` upward for the marker of a package. -/
def findPackageRoot (probe : Probe) (start : Path) (marker : String) :
    Except SearchError UpwardSearch :=
  findUpward probe start [marker]

end LintPool
