import LintPool.Path

set_option autoImplicit false

/-!
# A cache that files invalidate

An entry belongs to a workspace folder and a path, and lists the paths that its value was computed
from. When one of these changes, the entry goes. So that this takes no scan of all entries, an index
holds, for each path, the keys of the entries that list it. All paths are compared by components.

## Main definitions

* `LintPool.CacheKey`, `LintPool.CacheEntry` — what is stored.
* `LintPool.FileCache` — the entries and the index.
* `LintPool.FileCache.get?`, `LintPool.FileCache.insert`, `LintPool.FileCache.invalidate`,
  `LintPool.FileCache.clearWorkspace` — the operations.
-/

namespace LintPool

/-- What a path names, as caches compare it. -/
abbrev Location := List Path.Component

/-- A workspace folder and a path in it. -/
structure CacheKey where
  /-- The workspace folder. -/
  workspace : Location
  /-- The path. -/
  path : Location
  deriving Repr, DecidableEq

/-- The key of a workspace folder and a path. -/
def CacheKey.of (workspace path : Path) : CacheKey :=
  ⟨workspace.components, path.components⟩

/-- A value and the paths that it was computed from. -/
structure CacheEntry (α : Type) where
  /-- The value. -/
  value : α
  /-- The paths. -/
  sources : List Location
  deriving Repr

/-- The entries, and for each path the keys of the entries that list it. -/
structure FileCache (α : Type) where
  /-- The entries, at most one to a key. -/
  entries : List (CacheKey × CacheEntry α)
  /-- The keys to a path, at most one list to a path. -/
  dependents : List (Location × List CacheKey)
  deriving Repr

namespace FileCache

variable {α : Type}

/-- The cache that holds nothing. -/
def empty : FileCache α := ⟨[], []⟩

instance : Inhabited (FileCache α) := ⟨empty⟩

/-- The number of entries. -/
def size (c : FileCache α) : Nat := c.entries.length

/-- The entry of a key. -/
def find? (c : FileCache α) (key : CacheKey) : Option (CacheEntry α) :=
  (c.entries.find? (·.1 = key)).map (·.2)

/-- The value of a key. -/
def get? (c : FileCache α) (key : CacheKey) : Option α :=
  (c.find? key).map (·.value)

/-- The keys to a path. -/
def dependentsOf (index : List (Location × List CacheKey)) (source : Location) : List CacheKey :=
  match index.find? (·.1 = source) with
  | some bucket => bucket.2
  | none => []

/-- The index with a key put under a path. -/
def link (key : CacheKey) (index : List (Location × List CacheKey)) (source : Location) :
    List (Location × List CacheKey) :=
  if index.any (·.1 = source) then
    index.map fun bucket =>
      if bucket.1 = source then
        (bucket.1, if key ∈ bucket.2 then bucket.2 else bucket.2 ++ [key])
      else bucket
  else index ++ [(source, [key])]

/-- The index with a key taken from under a path; a path without keys goes. -/
def unlink (key : CacheKey) (index : List (Location × List CacheKey)) (source : Location) :
    List (Location × List CacheKey) :=
  index.filterMap fun bucket =>
    if bucket.1 = source then
      let rest := bucket.2.filter (· ≠ key)
      if rest.isEmpty then none else some (bucket.1, rest)
    else some bucket

/-- The cache without the entry of a key. -/
def erase (c : FileCache α) (key : CacheKey) : FileCache α :=
  match c.find? key with
  | none => c
  | some e =>
    { entries := c.entries.filter (·.1 ≠ key)
      dependents := e.sources.foldl (unlink key) c.dependents }

/-- Stores a value, to go when one of the sources changes. -/
def insert (c : FileCache α) (key : CacheKey) (value : α) (sources : List Location) : FileCache α :=
  let c := c.erase key
  { entries := c.entries ++ [(key, ⟨value, sources⟩)]
    dependents := sources.foldl (link key) c.dependents }

/-- The cache without the entries that list a path. -/
def invalidate (c : FileCache α) (source : Location) : FileCache α :=
  let keys := dependentsOf c.dependents source
  let c := { c with dependents := c.dependents.filter (·.1 ≠ source) }
  keys.foldl erase c

/-- The number of entries that list a path. -/
def countFor (c : FileCache α) (source : Location) : Nat :=
  ((dependentsOf c.dependents source).filter fun key => (c.find? key).isSome).length

/-- The cache without the entries of a workspace folder. -/
def clearWorkspace (c : FileCache α) (workspace : Location) : FileCache α :=
  ((c.entries.map (·.1)).filter (·.workspace = workspace)).foldl erase c

end FileCache

end LintPool
