import Mathlib.Data.List.Nodup
import Mathlib.Tactic.Common
import LintPool.Cache.Scan

set_option autoImplicit false

/-!
# The index of a cache that files invalidate

The index names, for each path, the keys of the entries that list it, no more and no less. Every
operation keeps it so, and with such an index the operations do to the entries what a scan of all of
them would do.

## Main definitions

* `LintPool.FileCache.Lists` — the entry of a key lists a path.
* `LintPool.FileCache.Indexed` — the index is exact.

## Main results

* `LintPool.FileCache.entries_insert`, `LintPool.FileCache.entries_clearWorkspace` — what becomes of
  the entries, whatever the index says.
* `LintPool.FileCache.Indexed.entries_invalidate` — an invalidation drops the entries that list the
  path, and no others.
* `LintPool.FileCache.Indexed.insert`, `LintPool.FileCache.Indexed.invalidate`,
  `LintPool.FileCache.Indexed.clearWorkspace` — the index stays exact.
* `LintPool.FileCache.Indexed.get?_eq_some_iff` — what a look finds.
-/

namespace LintPool

namespace FileCache

variable {α : Type}

/-! ## Buckets -/

/-- Looking at the first bucket, and then at the others. -/
lemma dependentsOf_cons (bucket : Location × List CacheKey)
    (index : List (Location × List CacheKey)) (s : Location) :
    dependentsOf (bucket :: index) s = if bucket.1 = s then bucket.2 else dependentsOf index s := by
  by_cases h : bucket.1 = s <;> simp [dependentsOf, h]

/-- A path without a bucket has no keys. -/
lemma dependentsOf_eq_nil {index : List (Location × List CacheKey)} {s : Location}
    (h : s ∉ index.map (·.1)) : dependentsOf index s = [] := by
  unfold dependentsOf
  rw [List.find?_eq_none.2 fun b hb hbs => h (List.mem_map.2 ⟨b, hb, by simpa using hbs⟩)]

/-- Taking a key from under a path looks at one bucket after another. -/
lemma unlink_cons (key : CacheKey) (bucket : Location × List CacheKey)
    (index : List (Location × List CacheKey)) (source : Location) :
    unlink key (bucket :: index) source =
      if bucket.1 = source then
        if (bucket.2.filter (· ≠ key)).isEmpty then unlink key index source
        else (bucket.1, bucket.2.filter (· ≠ key)) :: unlink key index source
      else bucket :: unlink key index source := by
  unfold unlink
  by_cases hb : bucket.1 = source
  · by_cases hempty : (bucket.2.filter (· ≠ key)).isEmpty = true
    · rw [List.filterMap_cons_none (by simp only [hb, if_pos, hempty]), if_pos hb, if_pos hempty]
    · rw [List.filterMap_cons_some (b := (bucket.1, bucket.2.filter (· ≠ key)))
        (by simp only [hb, if_pos, hempty, if_false, Bool.false_eq_true]), if_pos hb, if_neg hempty]
  · rw [List.filterMap_cons_some (b := bucket) (by simp only [if_neg hb]), if_neg hb]

/-- Taking a key from under a path leaves at most the buckets that there were. -/
lemma sublist_unlink (key : CacheKey) (index : List (Location × List CacheKey))
    (source : Location) :
    ((unlink key index source).map (·.1)).Sublist (index.map (·.1)) := by
  induction index with
  | nil => exact List.Sublist.refl _
  | cons b index ih =>
    rw [unlink_cons]
    split
    · split
      · exact ih.trans (List.sublist_cons_self _ _)
      · exact ih.cons_cons _
    · exact ih.cons_cons _

/-- What is under a path when a key was taken from under some path. -/
lemma mem_dependentsOf_unlink {index : List (Location × List CacheKey)}
    (h : (index.map (·.1)).Nodup) (key k : CacheKey) (source s : Location) :
    k ∈ dependentsOf (unlink key index source) s ↔
      k ∈ dependentsOf index s ∧ ¬ (s = source ∧ k = key) := by
  induction index with
  | nil => simp [unlink, dependentsOf]
  | cons b index ih =>
    rw [List.map_cons, List.nodup_cons] at h
    have hgone : dependentsOf (unlink key index source) b.1 = [] :=
      dependentsOf_eq_nil fun hmem => h.1 ((sublist_unlink key index source).subset hmem)
    rw [unlink_cons, dependentsOf_cons b]
    by_cases hs : b.1 = s
    · subst hs
      rw [if_pos rfl]
      split
      · rename_i hb
        split
        · rename_i hempty
          have hall : ∀ x ∈ b.2, x = key := by simpa using hempty
          rw [hgone]
          simpa [hb] using hall k
        · simp [dependentsOf_cons, List.mem_filter, hb]
      · rename_i hb
        simp [dependentsOf_cons, hb]
    · rw [if_neg hs, ← ih h.2]
      split
      · split
        · rfl
        · rw [dependentsOf_cons, if_neg hs]
      · rw [dependentsOf_cons, if_neg hs]

/-- Taking a key from under several paths leaves at most the buckets that there were. -/
lemma sublist_foldl_unlink (key : CacheKey) (sources : List Location)
    (index : List (Location × List CacheKey)) :
    ((sources.foldl (unlink key) index).map (·.1)).Sublist (index.map (·.1)) := by
  induction sources generalizing index with
  | nil => exact List.Sublist.refl _
  | cons source sources ih => exact (ih _).trans (sublist_unlink key index source)

/-- What is under a path when a key was taken from under several paths. -/
lemma mem_dependentsOf_foldl_unlink {index : List (Location × List CacheKey)}
    (h : (index.map (·.1)).Nodup) (key k : CacheKey) (sources : List Location) (s : Location) :
    k ∈ dependentsOf (sources.foldl (unlink key) index) s ↔
      k ∈ dependentsOf index s ∧ ¬ (s ∈ sources ∧ k = key) := by
  induction sources generalizing index with
  | nil => simp
  | cons source sources ih =>
    rw [List.foldl_cons, ih ((sublist_unlink key index source).nodup h), mem_dependentsOf_unlink h,
      List.mem_cons]
    tauto

/-- A bucket with a key put in, if it is the one of the path. -/
def linkBucket (key : CacheKey) (source : Location) (bucket : Location × List CacheKey) :
    Location × List CacheKey :=
  if bucket.1 = source then (bucket.1, if key ∈ bucket.2 then bucket.2 else bucket.2 ++ [key])
  else bucket

/-- What is under a path when a key was put into the bucket of some path. -/
lemma mem_dependentsOf_map_linkBucket (index : List (Location × List CacheKey))
    (key k : CacheKey) (source s : Location) :
    k ∈ dependentsOf (index.map (linkBucket key source)) s ↔
      k ∈ dependentsOf index s ∨ (s = source ∧ k = key ∧ source ∈ index.map (·.1)) := by
  induction index with
  | nil => simp [dependentsOf]
  | cons b index ih =>
    have hfst : (linkBucket key source b).1 = b.1 := by
      unfold linkBucket
      split <;> rfl
    rw [List.map_cons, dependentsOf_cons, hfst, dependentsOf_cons, List.map_cons, List.mem_cons]
    by_cases hs : b.1 = s
    · rw [if_pos hs, if_pos hs]
      subst hs
      by_cases hb : b.1 = source
      · subst hb
        by_cases hkey : key ∈ b.2
        · simp only [linkBucket, if_true, hkey]
          grind
        · simp [linkBucket, hkey]
      · simp [linkBucket, hb]
    · rw [if_neg hs, if_neg hs, ih]
      grind

/-- A key is put into the bucket of a path, or into a new one at the end. -/
lemma link_eq (key : CacheKey) (index : List (Location × List CacheKey)) (source : Location) :
    link key index source =
      if source ∈ index.map (·.1) then index.map (linkBucket key source)
      else index ++ [(source, [key])] := by
  have hany : index.any (·.1 = source) = true ↔ source ∈ index.map (·.1) := by simp
  unfold link
  simp only [hany]
  rfl

/-- Putting a key under a path makes no second bucket for any path. -/
lemma nodup_link {index : List (Location × List CacheKey)} (h : (index.map (·.1)).Nodup)
    (key : CacheKey) (source : Location) : ((link key index source).map (·.1)).Nodup := by
  rw [link_eq]
  split
  · have hfst : (fun b => (linkBucket key source b).1) = fun b => b.1 := by
      funext b
      unfold linkBucket
      split <;> rfl
    rwa [List.map_map, Function.comp_def, hfst]
  · rename_i hnew
    rw [List.map_append, List.map_singleton, ← List.concat_eq_append]
    exact h.concat hnew

/-- What is under a path when a key was put under some path. -/
lemma mem_dependentsOf_link (index : List (Location × List CacheKey)) (key k : CacheKey)
    (source s : Location) :
    k ∈ dependentsOf (link key index source) s ↔
      k ∈ dependentsOf index s ∨ (s = source ∧ k = key) := by
  rw [link_eq]
  split
  · rename_i hmem
    rw [mem_dependentsOf_map_linkBucket]
    simp only [hmem, and_true]
  · rename_i hnew
    induction index with
    | nil =>
      rw [List.nil_append, dependentsOf_cons]
      by_cases hs : source = s
      · simp [dependentsOf, hs]
      · have hne : ¬ s = source := fun e => hs e.symm
        simp [dependentsOf, hs, hne]
    | cons b index ih =>
      rw [List.map_cons, List.mem_cons, not_or] at hnew
      rw [List.cons_append, dependentsOf_cons, dependentsOf_cons]
      by_cases hs : b.1 = s
      · have hne : s ≠ source := fun e => hnew.1 (e ▸ hs.symm)
        simp [hs, hne]
      · rw [if_neg hs, if_neg hs, ih hnew.2]

/-- Putting a key under several paths makes no second bucket for any path. -/
lemma nodup_foldl_link {index : List (Location × List CacheKey)} (h : (index.map (·.1)).Nodup)
    (key : CacheKey) (sources : List Location) :
    ((sources.foldl (link key) index).map (·.1)).Nodup := by
  induction sources generalizing index with
  | nil => exact h
  | cons source sources ih => exact ih (nodup_link h key source)

/-- What is under a path when a key was put under several paths. -/
lemma mem_dependentsOf_foldl_link (index : List (Location × List CacheKey)) (key k : CacheKey)
    (sources : List Location) (s : Location) :
    k ∈ dependentsOf (sources.foldl (link key) index) s ↔
      k ∈ dependentsOf index s ∨ (s ∈ sources ∧ k = key) := by
  induction sources generalizing index with
  | nil => simp
  | cons source sources ih =>
    rw [List.foldl_cons, ih, mem_dependentsOf_link, List.mem_cons]
    tauto

/-! ## Entries -/

/-- The entry of a key lists a path. -/
def Lists (c : FileCache α) (s : Location) (key : CacheKey) : Prop :=
  ∃ e, c.find? key = some e ∧ s ∈ e.sources

/-- The index is exact: there is at most one entry to a key and one bucket to a path, and under a
path are the keys of the entries that list it. -/
structure Indexed (c : FileCache α) : Prop where
  /-- At most one entry to a key. -/
  keys_nodup : (c.entries.map (·.1)).Nodup
  /-- At most one bucket to a path. -/
  buckets_nodup : (c.dependents.map (·.1)).Nodup
  /-- Under a path are the keys of the entries that list it. -/
  mem_iff : ∀ s key, key ∈ dependentsOf c.dependents s ↔ c.Lists s key

/-- With one entry to a key, being found is being listed. -/
lemma find?_fst_eq_some_iff {xs : List (CacheKey × CacheEntry α)} (h : (xs.map (·.1)).Nodup)
    {key : CacheKey} {e : CacheEntry α} :
    (xs.find? (·.1 = key)).map (·.2) = some e ↔ (key, e) ∈ xs := by
  induction xs with
  | nil => simp
  | cons x xs ih =>
    obtain ⟨k, e'⟩ := x
    rw [List.map_cons, List.nodup_cons] at h
    by_cases hk : k = key
    · subst hk
      have hnot : (k, e) ∉ xs := fun hm => h.1 (List.mem_map.2 ⟨_, hm, rfl⟩)
      simp [hnot, eq_comm]
    · have hne : ¬ key = k := fun e => hk e.symm
      simpa [hk, hne] using ih h.2

/-- With one entry to a key, being found is being listed. -/
lemma find?_eq_some_iff {c : FileCache α} (h : (c.entries.map (·.1)).Nodup) {key : CacheKey}
    {e : CacheEntry α} : c.find? key = some e ↔ (key, e) ∈ c.entries :=
  find?_fst_eq_some_iff h

/-- The entry of a key goes, and no other. -/
lemma entries_erase (c : FileCache α) (key : CacheKey) :
    (c.erase key).entries = c.entries.filter (·.1 ≠ key) := by
  unfold erase
  split
  · rename_i hnone
    have hall : ∀ x ∈ c.entries, x.1 ≠ key := by simpa [find?] using hnone
    exact (List.filter_eq_self.2 fun x hx => by simpa using hall x hx).symm
  · rfl

/-- A key that is set has the new entry, in place of the one that it had. -/
lemma entries_insert (c : FileCache α) (key : CacheKey) (value : α) (sources : List Location) :
    (c.insert key value sources).entries =
      ScanCache.insert c.entries key value sources := by
  rw [insert, entries_erase, ScanCache.insert]

/-- The entries of several keys go, and no others. -/
lemma entries_foldl_erase (c : FileCache α) (keys : List CacheKey) :
    (keys.foldl erase c).entries = c.entries.filter (·.1 ∉ keys) := by
  induction keys generalizing c with
  | nil => simp
  | cons key keys ih =>
    rw [List.foldl_cons, ih, entries_erase, List.filter_filter]
    congr 1
    funext x
    simp [Bool.and_comm]

/-- The entries of a workspace folder go, and no others. -/
lemma entries_clearWorkspace (c : FileCache α) (workspace : Location) :
    (c.clearWorkspace workspace).entries = ScanCache.clearWorkspace c.entries workspace := by
  rw [clearWorkspace, entries_foldl_erase, ScanCache.clearWorkspace]
  refine List.filter_congr fun x hx => ?_
  have hkey : x.1 ∈ c.entries.map (·.1) := List.mem_map_of_mem hx
  simp only [List.mem_filter, hkey, true_and, decide_eq_true_eq, decide_not]

/-- What is found when the entry of a key is gone. -/
lemma find?_erase (c : FileCache α) (key k : CacheKey) :
    (c.erase key).find? k = if k = key then none else c.find? k := by
  unfold find?
  rw [entries_erase, List.find?_filter]
  split
  · rename_i h
    subst h
    simp
  · rename_i h
    congr 2
    funext x
    by_cases hx : x.1 = k <;> simp [hx, h]

/-- What is found when a key is set. -/
lemma find?_insert (c : FileCache α) (key k : CacheKey) (value : α) (sources : List Location) :
    (c.insert key value sources).find? k =
      if k = key then some ⟨value, sources⟩ else c.find? k := by
  have herase := find?_erase c key k
  unfold find? at *
  rw [insert, List.find?_append, Option.map_or, herase]
  split
  · rename_i h
    simp [h]
  · rename_i h
    have hne : ¬ key = k := fun e => h e.symm
    simp [hne]

/-! ## The index stays exact -/

/-- Where the index is exact for a path, it stays so when the entry of a key goes. -/
lemma mem_dependentsOf_erase {c : FileCache α} (h : (c.dependents.map (·.1)).Nodup)
    {s : Location} (hs : ∀ k, k ∈ dependentsOf c.dependents s ↔ c.Lists s k) (key k : CacheKey) :
    k ∈ dependentsOf (c.erase key).dependents s ↔ (c.erase key).Lists s k := by
  unfold Lists
  rw [find?_erase]
  unfold erase
  split
  · rename_i hnone
    rw [hs, Lists]
    split
    · rename_i hk
      subst hk
      simp [hnone]
    · rfl
  · rename_i e he
    rw [mem_dependentsOf_foldl_unlink h, hs, Lists]
    split
    · rename_i hk
      subst hk
      simp [he]
    · rename_i hk
      simp [hk]

/-- The buckets after the entry of a key has gone are some of those that there were. -/
lemma sublist_dependents_erase (c : FileCache α) (key : CacheKey) :
    ((c.erase key).dependents.map (·.1)).Sublist (c.dependents.map (·.1)) := by
  unfold erase
  split
  · exact List.Sublist.refl _
  · exact sublist_foldl_unlink _ _ _

/-- The buckets after the entries of several keys have gone are some of those that there were. -/
lemma sublist_dependents_foldl_erase (c : FileCache α) (keys : List CacheKey) :
    ((keys.foldl erase c).dependents.map (·.1)).Sublist (c.dependents.map (·.1)) := by
  induction keys generalizing c with
  | nil => exact List.Sublist.refl _
  | cons key keys ih => exact (ih _).trans (sublist_dependents_erase c key)

/-- Where the index is exact for a path, it stays so when the entries of several keys go. -/
lemma mem_dependentsOf_foldl_erase {c : FileCache α} (h : (c.dependents.map (·.1)).Nodup)
    {s : Location} (hs : ∀ k, k ∈ dependentsOf c.dependents s ↔ c.Lists s k)
    (keys : List CacheKey) (k : CacheKey) :
    k ∈ dependentsOf (keys.foldl erase c).dependents s ↔ (keys.foldl erase c).Lists s k := by
  induction keys generalizing c with
  | nil => exact hs k
  | cons key keys ih =>
    exact ih ((sublist_dependents_erase c key).nodup h) fun k => mem_dependentsOf_erase h hs key k

/-- No key comes under a path when entries go. -/
lemma mem_dependentsOf_of_foldl_erase {c : FileCache α} (h : (c.dependents.map (·.1)).Nodup)
    {s : Location} {keys : List CacheKey} {k : CacheKey}
    (hk : k ∈ dependentsOf (keys.foldl erase c).dependents s) :
    k ∈ dependentsOf c.dependents s := by
  induction keys generalizing c with
  | nil => exact hk
  | cons key keys ih =>
    have hkey := ih ((sublist_dependents_erase c key).nodup h) hk
    unfold erase at hkey
    split at hkey
    · exact hkey
    · exact ((mem_dependentsOf_foldl_unlink h _ _ _ _).1 hkey).1

/-- Without the bucket of a path, the other paths have the keys that they had. -/
lemma dependentsOf_filter_ne (index : List (Location × List CacheKey)) (source s : Location) :
    dependentsOf (index.filter (·.1 ≠ source)) s =
      if s = source then [] else dependentsOf index s := by
  split
  · rename_i h
    exact dependentsOf_eq_nil (by simp [h])
  · rename_i h
    unfold dependentsOf
    rw [List.find?_filter]
    have hfind : (fun b : Location × List CacheKey => decide (b.1 ≠ source) && decide (b.1 = s)) =
        fun b => decide (b.1 = s) := by
      funext b
      by_cases hb : b.1 = s <;> simp [hb, h]
    simp only [Bool.decide_and, Bool.decide_eq_true, hfind]

namespace Indexed

/-- Nothing is indexed where there is nothing. -/
protected lemma empty : (empty : FileCache α).Indexed where
  keys_nodup := List.nodup_nil
  buckets_nodup := List.nodup_nil
  mem_iff s key := by simp [FileCache.empty, dependentsOf, Lists, find?]

/-- No key comes twice among some of the entries. -/
lemma nodup_filter {xs : List (CacheKey × CacheEntry α)} (h : (xs.map (·.1)).Nodup)
    (f : CacheKey × CacheEntry α → Bool) : ((xs.filter f).map (·.1)).Nodup :=
  (List.filter_sublist.map _).nodup h

/-- Erasing some keys keeps the index. -/
protected lemma foldl_erase {c : FileCache α} (h : c.Indexed) (keys : List CacheKey) :
    (keys.foldl FileCache.erase c).Indexed where
  keys_nodup := by
    rw [entries_foldl_erase]
    exact nodup_filter h.keys_nodup _
  buckets_nodup := (sublist_dependents_foldl_erase c keys).nodup h.buckets_nodup
  mem_iff s k := mem_dependentsOf_foldl_erase h.buckets_nodup (h.mem_iff s) keys k

/-- Clearing a workspace folder keeps the index. -/
protected lemma clearWorkspace {c : FileCache α} (h : c.Indexed) (workspace : Location) :
    (c.clearWorkspace workspace).Indexed :=
  h.foldl_erase _

/-- An insertion keeps the index. -/
protected lemma insert {c : FileCache α} (h : c.Indexed) (key : CacheKey) (value : α)
    (sources : List Location) : (c.insert key value sources).Indexed where
  keys_nodup := by
    rw [entries_insert, ScanCache.insert, List.map_append, List.map_singleton,
      ← List.concat_eq_append]
    refine (nodup_filter h.keys_nodup _).concat fun hm => ?_
    obtain ⟨x, hx, hkey⟩ := List.mem_map.1 hm
    simp [hkey] at hx
  buckets_nodup := nodup_foldl_link (h.foldl_erase [key]).buckets_nodup _ _
  mem_iff s k := by
    have herased := (h.foldl_erase [key]).mem_iff s k
    rw [List.foldl_cons, List.foldl_nil, Lists, find?_erase] at herased
    rw [FileCache.insert, mem_dependentsOf_foldl_link, herased, ← FileCache.insert, Lists,
      find?_insert]
    by_cases hk : k = key <;> simp [hk]

/-- With an exact index, the keys under a path are those of the entries that list it. -/
lemma mem_dependentsOf_iff {c : FileCache α} (h : c.Indexed) {x : CacheKey × CacheEntry α}
    (hx : x ∈ c.entries) (s : Location) :
    x.1 ∈ dependentsOf c.dependents s ↔ s ∈ x.2.sources := by
  have hentry : c.find? x.1 = some x.2 := (find?_eq_some_iff h.keys_nodup).2 hx
  simp [h.mem_iff, Lists, hentry]

/-- **An invalidation** drops the entries that list the path, and no others. -/
lemma entries_invalidate {c : FileCache α} (h : c.Indexed) (source : Location) :
    (c.invalidate source).entries = ScanCache.invalidate c.entries source := by
  rw [invalidate, entries_foldl_erase, ScanCache.invalidate]
  refine List.filter_congr fun x hx => ?_
  simp only [h.mem_dependentsOf_iff hx]

/-- No entry lists a path that was invalidated. -/
lemma not_lists_invalidate {c : FileCache α} (h : c.Indexed) (source : Location) (k : CacheKey) :
    ¬ (c.invalidate source).Lists source k := by
  rintro ⟨e, hentry, hs⟩
  have hmem : (k, e) ∈ (c.invalidate source).entries := by
    obtain ⟨x, hfind, rfl⟩ := Option.map_eq_some_iff.1 hentry
    have hk : x.1 = k := by simpa using List.find?_some hfind
    exact hk ▸ List.mem_of_find?_eq_some hfind
  rw [h.entries_invalidate] at hmem
  simpa [hs] using (List.mem_filter.1 hmem).2

/-- An invalidation keeps the index. -/
protected lemma invalidate {c : FileCache α} (h : c.Indexed) (source : Location) :
    (c.invalidate source).Indexed := by
  have hnodup : ((c.dependents.filter (·.1 ≠ source)).map (·.1)).Nodup :=
    (List.filter_sublist.map _).nodup h.buckets_nodup
  refine ⟨?_, (sublist_dependents_foldl_erase _ _).nodup hnodup, fun s k => ?_⟩
  · rw [h.entries_invalidate]
    exact nodup_filter h.keys_nodup _
  · by_cases hs : s = source
    · subst hs
      refine iff_of_false (fun hk => ?_) (h.not_lists_invalidate s k)
      have hnone := mem_dependentsOf_of_foldl_erase hnodup hk
      rw [dependentsOf_filter_ne, if_pos rfl] at hnone
      cases hnone
    · refine mem_dependentsOf_foldl_erase hnodup (fun k => ?_) _ k
      rw [dependentsOf_filter_ne, if_neg hs, h.mem_iff]
      rfl

/-- A look finds a value if an entry of the key holds it. -/
lemma get?_eq_some_iff {c : FileCache α} (h : c.Indexed) {key : CacheKey} {v : α} :
    c.get? key = some v ↔ ∃ e, (key, e) ∈ c.entries ∧ e.value = v := by
  simp [get?, find?_eq_some_iff h.keys_nodup]

end Indexed

end FileCache

end LintPool
