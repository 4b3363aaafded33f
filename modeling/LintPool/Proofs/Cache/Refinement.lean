import LintPool.Proofs.Cache.Index

set_option autoImplicit false

/-!
# An indexed cache answers like a scan

Whatever is asked of a cache, one thing after the other, it answers as a plain map would that has no
index and looks through all its entries instead. All the while its index is exact, and no path
stands in it without a key.

## Main definitions

* `LintPool.CacheOperation`, `LintPool.CacheAnswer` — what is asked, and what is answered.
* `LintPool.FileCache.perform`, `LintPool.ScanCache.perform` — the two caches at work.
* `LintPool.performAll` — one operation after the other.
* `LintPool.FileCache.Exact` — the index is exact, and no path is in it without a key.

## Main results

* `LintPool.FileCache.Exact.countFor_eq` — the index counts what a scan counts.
* `LintPool.FileCache.Exact.perform` — an operation does to both caches the same.
* `LintPool.FileCache.answers_eq_scan` — so do any number of them.

## Design

Keys and paths are compared by their components, so an operation is given paths as they are written
and works on their locations. The plain map is the list of entries alone; the two caches are
compared by the answers that they give and by the entries that they hold, and the index is compared
with the entries of its own cache.
-/

namespace LintPool

/-! ## Operations -/

/-- What is asked of a cache. -/
inductive CacheOperation (α : Type) where
  /-- The value of a path in a workspace folder. -/
  | get (workspace path : Path)
  /-- To store a value, to go when one of the sources changes. -/
  | insert (workspace path : Path) (value : α) (sources : List Path)
  /-- To drop the entries that list a path. -/
  | invalidate (path : Path)
  /-- To drop the entries of a workspace folder. -/
  | clearWorkspace (workspace : Path)
  /-- To drop all entries. -/
  | clear
  /-- The number of entries. -/
  | length
  deriving Repr

/-- What a cache answers. -/
inductive CacheAnswer (α : Type) where
  /-- The value, if there is one. -/
  | value (v : Option α)
  /-- The number of entries that were dropped. -/
  | dropped (count : Nat)
  /-- The number of entries. -/
  | length (count : Nat)
  /-- It is done. -/
  | done
  deriving Repr, DecidableEq

section

variable {α σ : Type}

/-- One operation after the other: the answers, and the state after them. -/
def performAll (perform : σ → CacheOperation α → CacheAnswer α × σ) (s : σ) :
    List (CacheOperation α) → List (CacheAnswer α) × σ
  | [] => ([], s)
  | op :: ops =>
    let (answer, s) := perform s op
    let (answers, s) := performAll perform s ops
    (answer :: answers, s)

/-- An indexed cache at work. -/
def FileCache.perform (c : FileCache α) : CacheOperation α → CacheAnswer α × FileCache α
  | .get ws path => (.value (c.get? (.of ws path)), c)
  | .insert ws path value sources =>
    (.done, c.insert (.of ws path) value (sources.map Path.components))
  | .invalidate path => (.dropped (c.countFor path.components), c.invalidate path.components)
  | .clearWorkspace ws => (.done, c.clearWorkspace ws.components)
  | .clear => (.done, .empty)
  | .length => (.length c.size, c)

/-- A plain map at work: what a scan of all entries leaves out has been dropped. -/
def ScanCache.perform (c : ScanCache α) : CacheOperation α → CacheAnswer α × ScanCache α
  | .get ws path => (.value (c.get? (.of ws path)), c)
  | .insert ws path value sources =>
    (.done, c.insert (.of ws path) value (sources.map Path.components))
  | .invalidate path =>
    (.dropped (List.length c - (c.invalidate path.components).length),
      c.invalidate path.components)
  | .clearWorkspace ws => (.done, c.clearWorkspace ws.components)
  | .clear => (.done, [])
  | .length => (.length (List.length c), c)

/-- What a scan drops are the entries that list the path. -/
lemma ScanCache.length_sub_invalidate (c : ScanCache α) (source : Location) :
    List.length c - (c.invalidate source).length = (c.listing source).length := by
  have hsplit : List.length c = (c.listing source).length + (c.invalidate source).length := by
    simpa [listing, invalidate] using
      List.length_eq_length_filter_add (l := c) fun e => decide (source ∈ e.2.sources)
  omega

end

/-! ## Buckets -/

namespace FileCache

variable {α : Type}

/-- A set of keys: there are some, and none is in it twice. -/
def IsBucket (keys : List CacheKey) : Prop :=
  keys ≠ [] ∧ keys.Nodup

/-- Every path in an index has a set of keys. -/
def Clean (index : List (Location × List CacheKey)) : Prop :=
  ∀ bucket ∈ index, IsBucket bucket.2

/-- Taking a key from under a path leaves no path without keys. -/
lemma Clean.unlink {index : List (Location × List CacheKey)} (h : Clean index) (key : CacheKey)
    (source : Location) : Clean (unlink key index source) := by
  intro bucket hbucket
  obtain ⟨b, hb, hkept⟩ := List.mem_filterMap.1 hbucket
  split at hkept
  · dsimp only at hkept
    split at hkept
    · cases hkept
    · rename_i hsome
      cases hkept
      exact ⟨by simpa using hsome, (h b hb).2.filter _⟩
  · cases hkept
    exact h bucket hb

/-- Putting a key into a bucket leaves it a set of keys. -/
lemma IsBucket.linkBucket {bucket : Location × List CacheKey} (h : IsBucket bucket.2)
    (key : CacheKey) (source : Location) : IsBucket (linkBucket key source bucket).2 := by
  unfold FileCache.linkBucket
  split
  · dsimp only
    split
    · exact h
    · rename_i hnew
      refine ⟨by simp, ?_⟩
      rw [← List.concat_eq_append]
      exact h.2.concat hnew
  · exact h

/-- Putting a key under a path leaves no path without keys. -/
lemma Clean.link {index : List (Location × List CacheKey)} (h : Clean index) (key : CacheKey)
    (source : Location) : Clean (link key index source) := by
  rw [link_eq]
  split
  · intro bucket hbucket
    obtain ⟨b, hb, rfl⟩ := List.mem_map.1 hbucket
    exact (h b hb).linkBucket key source
  · intro bucket hbucket
    rcases List.mem_append.1 hbucket with hold | hnew
    · exact h bucket hold
    · cases List.mem_singleton.1 hnew
      exact ⟨List.cons_ne_nil _ _, List.nodup_singleton _⟩

/-- What one path leaves clean, several do. -/
lemma Clean.foldl {index : List (Location × List CacheKey)} (h : Clean index)
    {change : List (Location × List CacheKey) → Location → List (Location × List CacheKey)}
    (hchange : ∀ index, Clean index → ∀ source, Clean (change index source))
    (sources : List Location) : Clean (sources.foldl change index) := by
  induction sources generalizing index with
  | nil => exact h
  | cons source sources ih => exact ih (hchange index h source)

/-- Without the entry of a key no path is without keys. -/
lemma Clean.erase {c : FileCache α} (h : Clean c.dependents) (key : CacheKey) :
    Clean (c.erase key).dependents := by
  unfold FileCache.erase
  split
  · exact h
  · exact h.foldl (fun _ hindex source => hindex.unlink key source) _

/-- Without the entries of several keys no path is without keys. -/
lemma Clean.foldl_erase {c : FileCache α} (h : Clean c.dependents) (keys : List CacheKey) :
    Clean (keys.foldl FileCache.erase c).dependents := by
  induction keys generalizing c with
  | nil => exact h
  | cons key keys ih => exact ih (h.erase key)

/-! ## The exact index -/

/-- The index is exact: under a path are the keys of the entries that list it, each once, and no
path is in the index without a key. -/
structure Exact (c : FileCache α) : Prop extends Indexed c where
  /-- Every path in the index has a set of keys. -/
  clean : Clean c.dependents

/-- The keys under a path are a set, be it an empty one. -/
lemma Clean.nodup_dependentsOf {index : List (Location × List CacheKey)} (h : Clean index)
    (source : Location) : (dependentsOf index source).Nodup := by
  unfold dependentsOf
  split
  · rename_i bucket hfind
    exact (h bucket (List.mem_of_find?_eq_some hfind)).2
  · exact List.nodup_nil

namespace Exact

variable {c : FileCache α}

/-- The index of an empty cache is exact. -/
protected lemma empty : (empty : FileCache α).Exact where
  toIndexed := .empty
  clean := fun _ h => absurd h List.not_mem_nil

/-- An insertion keeps the index exact. -/
protected lemma insert (h : c.Exact) (key : CacheKey) (value : α) (sources : List Location) :
    (c.insert key value sources).Exact where
  toIndexed := h.toIndexed.insert key value sources
  clean := (h.clean.erase key).foldl (fun _ hindex source => hindex.link key source) _

/-- An invalidation keeps the index exact. -/
protected lemma invalidate (h : c.Exact) (source : Location) : (c.invalidate source).Exact where
  toIndexed := h.toIndexed.invalidate source
  clean := by
    have hothers : Clean (c.dependents.filter (·.1 ≠ source)) := fun bucket hbucket =>
      h.clean bucket (List.mem_filter.1 hbucket).1
    exact Clean.foldl_erase hothers _

/-- Clearing a workspace folder keeps the index exact. -/
protected lemma clearWorkspace (h : c.Exact) (ws : Location) : (c.clearWorkspace ws).Exact where
  toIndexed := h.toIndexed.clearWorkspace ws
  clean := h.clean.foldl_erase _

/-- **The index counts** what a scan counts.

**Proof sketch.** The keys under a path and the keys of the entries that list it are both without
repetition, and the same keys. -/
theorem countFor_eq (h : c.Exact) (source : Location) :
    c.countFor source = (c.scan.listing source).length := by
  have hlive : (dependentsOf c.dependents source).filter (fun key => (c.find? key).isSome) =
      dependentsOf c.dependents source := by
    refine List.filter_eq_self.2 fun key hkey => ?_
    obtain ⟨e, hentry, -⟩ := (h.mem_iff source key).1 hkey
    rw [hentry, Option.isSome_some]
  have hkeys : (dependentsOf c.dependents source).Perm ((c.scan.listing source).map (·.1)) := by
    refine (List.perm_ext_iff_of_nodup (h.clean.nodup_dependentsOf source)
      (Indexed.nodup_filter h.keys_nodup _)).2 fun key => ?_
    rw [h.mem_iff, List.mem_map]
    constructor
    · rintro ⟨e, hentry, hs⟩
      have hmem : (key, e) ∈ c.entries := (find?_eq_some_iff h.keys_nodup).1 hentry
      exact ⟨(key, e), List.mem_filter.2 ⟨hmem, by simpa using hs⟩, rfl⟩
    · rintro ⟨x, hx, rfl⟩
      obtain ⟨hmem, hs⟩ := List.mem_filter.1 hx
      exact ⟨x.2, (find?_eq_some_iff h.keys_nodup).2 hmem, by simpa using hs⟩
  rw [countFor, hlive, hkeys.length_eq, List.length_map]

/-- **An operation** is answered by both caches alike, and leaves them with the same entries and the
index exact. -/
theorem perform (h : c.Exact) (op : CacheOperation α) :
    (c.perform op).1 = (c.scan.perform op).1 ∧
      (c.perform op).2.scan = (c.scan.perform op).2 ∧ (c.perform op).2.Exact := by
  cases op with
  | get ws path =>
    have hvalue : c.get? (.of ws path) = c.scan.get? (.of ws path) := by
      unfold FileCache.get? find? ScanCache.get?
      rw [Option.map_map]
      rfl
    exact ⟨congrArg CacheAnswer.value hvalue, rfl, h⟩
  | insert ws path value sources => exact ⟨rfl, entries_insert c _ _ _, h.insert _ _ _⟩
  | invalidate path =>
    have hcount : c.countFor path.components =
        List.length c.scan - (c.scan.invalidate path.components).length := by
      rw [h.countFor_eq, ScanCache.length_sub_invalidate]
    exact ⟨congrArg CacheAnswer.dropped hcount, h.entries_invalidate _, h.invalidate _⟩
  | clearWorkspace ws => exact ⟨rfl, entries_clearWorkspace c _, h.clearWorkspace _⟩
  | clear => exact ⟨rfl, rfl, .empty⟩
  | length => exact ⟨rfl, rfl, h⟩

/-- Any number of operations are answered by both caches alike. -/
theorem performAll (h : c.Exact) (ops : List (CacheOperation α)) :
    (performAll FileCache.perform c ops).1 = (performAll ScanCache.perform c.scan ops).1 ∧
      (performAll FileCache.perform c ops).2.scan = (performAll ScanCache.perform c.scan ops).2 ∧
      (performAll FileCache.perform c ops).2.Exact := by
  induction ops generalizing c with
  | nil => exact ⟨rfl, rfl, h⟩
  | cons op ops ih =>
    obtain ⟨hanswer, hscan, hexact⟩ := h.perform op
    obtain ⟨hanswers, hlater, hstill⟩ := ih hexact
    rw [hscan] at hanswers hlater
    exact ⟨congrArg₂ List.cons hanswer hanswers, hlater, hstill⟩

end Exact

/-- **An indexed cache answers like a scan.** Whatever is asked of a new cache, every answer is that
of a plain map that scans all its entries, and the entries are the same; the index then has under a
path the keys of the entries that list it, each once, and has no path without a key. -/
theorem answers_eq_scan (ops : List (CacheOperation α)) :
    (performAll perform empty ops).1 = (performAll ScanCache.perform [] ops).1 ∧
      (performAll perform empty ops).2.scan = (performAll ScanCache.perform [] ops).2 ∧
      (performAll perform empty ops).2.Exact :=
  Exact.empty.performAll ops

-- A key is stored again with other sources, one of them twice: only the latter count.
example : (performAll perform empty
    [.insert ⟨"/w"⟩ ⟨"/w/a"⟩ 1 [⟨"/s"⟩], .insert ⟨"/w"⟩ ⟨"/w//a"⟩ 2 [⟨"/t"⟩, ⟨"/t/"⟩],
      .invalidate ⟨"/s"⟩, .get ⟨"/w"⟩ ⟨"/w/a"⟩, .invalidate ⟨"/t"⟩, .length]).1 =
    [.done, .done, .dropped 0, .value (some 2), .dropped 1, .length 0] := by decide +kernel

end FileCache

end LintPool
