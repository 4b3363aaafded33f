import LintPool.Cache.Basic
import LintPool.Search.Upward

set_option autoImplicit false

/-!
# Remembered package roots

The package root of a path is the folder of the nearest marker above it, if that folder lies within
the workspace folder. What a search finds is remembered, also when it finds nothing, until a path
changes that the search looked at.

## Main definitions

* `LintPool.PackageRoots` — the remembered roots, and the number of searches made.
* `LintPool.PackageRoots.find` — the root of a path.
* `LintPool.PackageRoots.findForRequest` — the root for a request.
* `LintPool.installerOf` — the folder that a linter is installed for.
-/

namespace LintPool

/-- The remembered roots, and the number of searches made. -/
structure PackageRoots where
  /-- The name of the marker file. -/
  marker : String
  /-- What is remembered. -/
  cache : FileCache (Option Path)
  /-- The number of searches. -/
  walks : Nat
  deriving Repr

/-- The folder that owns the `node_modules` folder that a linter is installed in: the path up to
the last component of that name, or the whole path if there is none. -/
def installerOf (linter : Path) : Path :=
  let above := linter.components.reverse.dropWhile (· ≠ .name "node_modules".toList)
  match above with
  | [] => linter
  | _ :: owner => .ofComponents owner.reverse

namespace PackageRoots

/-- Nothing remembered. -/
def empty (marker : String) : PackageRoots := ⟨marker, .empty, 0⟩

/-- The root that a search comes to: none outside the workspace folder counts. -/
def rootOf (workspace : Path) (s : UpwardSearch) : Option Path :=
  s.directory.filter (·.within workspace)

/-- The remembered root of a path. -/
def known? (r : PackageRoots) (workspace path : Path) : Option (Option Path) :=
  r.cache.get? (.of workspace path)

/-- Remembers what a search came to. -/
def remember (r : PackageRoots) (workspace path : Path) (s : UpwardSearch) : PackageRoots :=
  { r with
    cache := r.cache.insert (.of workspace path) (rootOf workspace s)
      (s.probed.map Path.components) }

/-- The root of a path, remembered or searched for. -/
def find (probe : Probe) (r : PackageRoots) (workspace path : Path) :
    Except SearchError (Option Path) × PackageRoots :=
  match r.known? workspace path with
  | some root => (.ok root, r)
  | none =>
    let r := { r with walks := r.walks + 1 }
    match findPackageRoot probe path r.marker with
    | .error e => (.error e, r)
    | .ok s => (.ok (rootOf workspace s), r.remember workspace path s)

/-- The root of the package that installed the linter. -/
def findForLinter (probe : Probe) (r : PackageRoots) (workspace : Path) :
    Option Path → Except SearchError (Option Path) × PackageRoots
  | some linter => r.find probe workspace (installerOf (linter.seenFrom workspace))
  | none => (.ok none, r)

/-- The root for a request: that of the code file, else that of the package that installed the
linter. -/
def findForRequest (probe : Probe) (r : PackageRoots) (workspace : Path)
    (codeFile linter : Option Path) : Except SearchError (Option Path) × PackageRoots :=
  match codeFile with
  | none => r.findForLinter probe workspace linter
  | some file =>
    match r.find probe workspace file with
    | (.ok none, r) => r.findForLinter probe workspace linter
    | answer => answer

/-- Forgets what depends on a path. -/
def invalidate (r : PackageRoots) (path : Path) : PackageRoots :=
  { r with cache := r.cache.invalidate path.components }

/-- The number of roots that depend on a path. -/
def countFor (r : PackageRoots) (path : Path) : Nat :=
  r.cache.countFor path.components

/-- Forgets the roots of a workspace folder. -/
def clearWorkspace (r : PackageRoots) (workspace : Path) : PackageRoots :=
  { r with cache := r.cache.clearWorkspace workspace.components }

/-- Forgets everything. -/
def clear (r : PackageRoots) : PackageRoots :=
  { r with cache := .empty }

end PackageRoots

end LintPool
