import LintPool.Cache.Basic

set_option autoImplicit false

/-!
# The same cache without an index

## Main definitions

* `LintPool.ScanCache` — a plain map from keys to entries.
* `LintPool.ScanCache.invalidate` — a scan of all entries for those that list a path.
* `LintPool.FileCache.scan` — an indexed cache without its index.
-/

namespace LintPool

/-- A plain map from keys to entries. -/
abbrev ScanCache (α : Type) := List (CacheKey × CacheEntry α)

namespace ScanCache

variable {α : Type}

/-- The value of a key. -/
def get? (c : ScanCache α) (key : CacheKey) : Option α :=
  (c.find? (·.1 = key)).map (·.2.value)

/-- Stores a value. -/
def insert (c : ScanCache α) (key : CacheKey) (value : α) (sources : List Location) : ScanCache α :=
  c.filter (·.1 ≠ key) ++ [(key, ⟨value, sources⟩)]

/-- The entries that list a path. -/
def listing (c : ScanCache α) (source : Location) : ScanCache α :=
  c.filter fun e => source ∈ e.2.sources

/-- The cache without the entries that list a path. -/
def invalidate (c : ScanCache α) (source : Location) : ScanCache α :=
  c.filter fun e => source ∉ e.2.sources

/-- The cache without the entries of a workspace folder. -/
def clearWorkspace (c : ScanCache α) (workspace : Location) : ScanCache α :=
  c.filter (·.1.workspace ≠ workspace)

end ScanCache

/-- An indexed cache without its index. -/
def FileCache.scan {α : Type} (c : FileCache α) : ScanCache α := c.entries

end LintPool
