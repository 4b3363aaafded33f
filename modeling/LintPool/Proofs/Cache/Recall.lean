import LintPool.Cache.PnpLoaders
import LintPool.Proofs.Cache.Index
import LintPool.Proofs.Search.Locality

set_option autoImplicit false

/-!
# Remembering what searches come to

The remembered roots and the remembered configurations are one thing with different searches: what
is not remembered under a workspace folder and a path is searched for, and the value is remembered
with the paths that the search looked at. What is remembered is backed as long as the tree still
says of these paths what it said during the search.

## Main definitions

* `LintPool.Search`, `LintPool.rootSearch`, `LintPool.loaderSearch` — searches that record what they
  looked at.
* `LintPool.FileCache.recollect` — a remembered value, or what a search comes to.
* `LintPool.FileCache.Backed` — every entry is what a search came to.
* `LintPool.AnswersLike` — two answers are alike.
* `LintPool.Faithful` — an answer is like what a search comes to, and is remembered.

## Main results

* `LintPool.PackageRoots.find_eq`, `LintPool.PnpLoaders.find_eq` — how the two are one.
* `LintPool.FileCache.Backed.recollect` — where the tree says what it said, a recalled value is
  like one that is searched for, and is remembered.
* `LintPool.FileCache.find?_invalidate`, `LintPool.FileCache.find?_clearWorkspace`,
  `LintPool.FileCache.find?_recollect` — an entry stays until it is dropped.
-/

namespace LintPool

/-! ## Searches -/

/-- A search for something under a workspace folder and a path: what it comes to, and the paths that
it looked at. -/
abbrev Search (α : Type) := Probe → Path → Path → Except SearchError (α × List Path)

/-- The search for a package root. -/
def rootSearch (marker : String) : Search (Option Path) := fun probe ws path =>
  (findPackageRoot probe path marker).map fun s => (PackageRoots.rootOf ws s, s.probed)

/-- The search for a configuration. -/
def loaderSearch : Search (Option PnpConfiguration) := fun probe _ path =>
  (findPnp probe path).map fun s => (s.configuration, s.probed)

/-- Where paths within reach are spelled differently, the tree answers alike. -/
def EvenHanded (looks : Probe) (reach : Path → Prop) : Prop :=
  ∀ p p', reach p → reach p' → p.Same p' → looks p = looks p'

/-- A search looks at candidates only, and depends on what it looked at only. -/
structure Search.Local {α : Type} (search : Search α) (candidates : Path → List Path)
    (Like : α → α → Prop) : Prop where
  /-- It looks at candidates only. -/
  subset : ∀ {probe ws path v probed}, search probe ws path = .ok (v, probed) →
    probed ⊆ candidates path
  /-- From paths that are the same, and where those that were looked at are as they were, it comes
  to the like. -/
  agree : ∀ {probe probe' ws ws' path path' v probed}, ws.Same ws' → path.Same path' →
    search probe ws path = .ok (v, probed) →
    (∀ p ∈ probed, ∀ p' ∈ candidates path', p.Same p' → probe' p' = probe p) →
    ∃ v' probed', search probe' ws' path' = .ok (v', probed') ∧ Like v v' ∧
      probed.map Path.components = probed'.map Path.components

/-- An answer is like what a search comes to: it is the same error, or a value like the one that the
search finds, and then it is known with the paths that the search looks at. -/
@[mk_iff]
inductive Faithful {α : Type} (Like : α → α → Prop) (Known : α → List Location → Prop) :
    Except SearchError α → Except SearchError (α × List Path) → Prop where
  | error (e : SearchError) : Faithful Like Known (.error e) (.error e)
  | ok {v w : α} {probed : List Path} (like : Like v w)
    (known : Known v (probed.map Path.components)) : Faithful Like Known (.ok v) (.ok (w, probed))

/-- Two answers are alike: both are the same error, or both are values that are alike. -/
inductive AnswersLike {α : Type} (Like : α → α → Prop) :
    Except SearchError α → Except SearchError α → Prop where
  | error (e : SearchError) : AnswersLike Like (.error e) (.error e)
  | ok {v w : α} (like : Like v w) : AnswersLike Like (.ok v) (.ok w)

/-- A faithful answer is like the other one, whatever has been looked at for it. -/
lemma Faithful.answersLike {α : Type} {Like : α → α → Prop} {Known : α → List Location → Prop}
    {a : Except SearchError α} {b : Except SearchError (α × List Path)}
    (h : Faithful Like Known a b) : AnswersLike Like a (b.map (·.1)) := by
  cases h with
  | error e => exact .error e
  | ok like known => exact .ok like

/-- A mapped result is a success when the result is one. -/
lemma map_eq_ok {ε β γ : Type} {x : Except ε β} {f : β → γ} {c : γ} (h : x.map f = .ok c) :
    ∃ b, x = .ok b ∧ f b = c := by
  cases x with
  | error e => cases h
  | ok b => exact ⟨b, rfl, Except.ok.inj h⟩

/-- The search for a package root looks at the markers above the path. -/
lemma rootSearch_local (marker : String) :
    (rootSearch marker).Local (candidates · [marker]) SamePath? where
  subset h := by
    obtain ⟨s, hs, heq⟩ := map_eq_ok h
    cases heq
    exact probed_subset_of_searchAlong hs
  agree hws hpath h hagree := by
    obtain ⟨s, hs, heq⟩ := map_eq_ok h
    cases heq
    obtain ⟨s', hs', hsame⟩ := findUpward_same hpath hs hagree
    refine ⟨_, s'.probed, ?_, hsame.rootOf hws, hsame.probed⟩
    rw [rootSearch, findPackageRoot, hs']
    rfl

/-- The search for a configuration looks at the scripts above the path and the loaders beside
them. -/
lemma loaderSearch_local :
    loaderSearch.Local loaderCandidates fun a b => samePnp a b = true where
  subset h := by
    obtain ⟨s, hs, heq⟩ := map_eq_ok h
    cases heq
    exact probed_subset_of_findPnp hs
  agree hws hpath h hagree := by
    obtain ⟨s, hs, heq⟩ := map_eq_ok h
    cases heq
    obtain ⟨s', hs', hsame⟩ := findPnp_same hpath hs hagree
    refine ⟨_, s'.probed, ?_, hsame.configuration, hsame.probed⟩
    rw [loaderSearch, hs']
    rfl

/-! ## Recalling -/

namespace FileCache

variable {α : Type}

/-- A remembered value, or what a search comes to, which is then remembered. -/
def recollect (c : FileCache α) (search : Search α) (probe : Probe) (ws path : Path) :
    Except SearchError α × FileCache α :=
  match c.get? (.of ws path) with
  | some v => (.ok v, c)
  | none =>
    match search probe ws path with
    | .error e => (.error e, c)
    | .ok (v, probed) => (.ok v, c.insert (.of ws path) v (probed.map Path.components))

/-- What is remembered is recalled without a search. -/
lemma recollect_of_known {c : FileCache α} {ws path : Path} {e : CacheEntry α}
    (h : c.find? (.of ws path) = some e) (search : Search α) (probe : Probe) :
    c.recollect search probe ws path = (.ok e.value, c) := by
  unfold recollect get?
  rw [h]
  rfl

/-- What is not remembered is searched for. -/
lemma recollect_of_unknown {c : FileCache α} {ws path : Path}
    (h : c.find? (.of ws path) = none) (search : Search α) (probe : Probe) :
    (∃ e, search probe ws path = .error e ∧ c.recollect search probe ws path = (.error e, c)) ∨
      ∃ v probed, search probe ws path = .ok (v, probed) ∧ c.recollect search probe ws path =
        (.ok v, c.insert (.of ws path) v (probed.map Path.components)) := by
  unfold recollect get?
  rw [h]
  rcases search probe ws path with e | ⟨v, probed⟩
  · exact .inl ⟨e, rfl, rfl⟩
  · exact .inr ⟨v, probed, rfl, rfl⟩

/-! ## What stands behind an entry -/

/-- An entry is what a search came to, and of the paths that it looked at, which were within reach,
the tree still says what it said then, but for those that are left untold. -/
def EntryBacked (search : Search α) (reach : Path → Prop) (untold : Location → Prop) (looks : Probe)
    (key : CacheKey) (e : CacheEntry α) : Prop :=
  ∃ ws path old probed, key = .of ws path ∧ search old ws path = .ok (e.value, probed) ∧
    e.sources = probed.map Path.components ∧
      ∀ p ∈ probed, reach p ∧ (untold p.components ∨ old p = looks p)

/-- The index is exact and every entry is what a search came to. -/
structure Backed (c : FileCache α) (search : Search α) (reach : Path → Prop)
    (untold : Location → Prop) (looks : Probe) : Prop where
  /-- The index is exact. -/
  indexed : c.Indexed
  /-- Every entry is what a search came to. -/
  entry : ∀ {key e}, c.find? key = some e → EntryBacked search reach untold looks key e

section

variable {c : FileCache α} {search : Search α} {reach : Path → Prop} {untold : Location → Prop}
  {looks : Probe}

/-- What is dropped by an invalidation, and what stays. -/
lemma find?_invalidate (h : c.Indexed) (source : Location) {key : CacheKey} {e : CacheEntry α} :
    (c.invalidate source).find? key = some e ↔ c.find? key = some e ∧ source ∉ e.sources := by
  rw [find?_eq_some_iff (h.invalidate source).keys_nodup, h.entries_invalidate,
    ScanCache.invalidate, List.mem_filter, ← find?_eq_some_iff h.keys_nodup]
  simp

/-- What is dropped with a workspace folder, and what stays. -/
lemma find?_clearWorkspace (h : c.Indexed) (workspace : Location) {key : CacheKey}
    {e : CacheEntry α} :
    (c.clearWorkspace workspace).find? key = some e ↔
      c.find? key = some e ∧ key.workspace ≠ workspace := by
  rw [find?_eq_some_iff (h.clearWorkspace workspace).keys_nodup, entries_clearWorkspace,
    ScanCache.clearWorkspace, List.mem_filter, ← find?_eq_some_iff h.keys_nodup]
  simp

/-- Recalling drops nothing. -/
lemma find?_recollect {key : CacheKey} {e : CacheEntry α} (h : c.find? key = some e)
    (search : Search α) (looks : Probe) (ws path : Path) :
    (c.recollect search looks ws path).2.find? key = some e := by
  rcases hknown : c.find? (.of ws path) with _ | e'
  · obtain ⟨_, -, heq⟩ | ⟨v, probed, -, heq⟩ := recollect_of_unknown hknown search looks
    · rw [heq]
      exact h
    · have hne : key ≠ .of ws path := fun hkey => by simp [hkey, hknown] at h
      rw [heq, find?_insert, if_neg hne, h]
  · rw [recollect_of_known hknown]
    exact h

/-- More may be left untold, as long as it tells of every change. -/
lemma EntryBacked.mono {untold' : Location → Prop} {looks' : Probe} {key : CacheKey}
    {e : CacheEntry α} (h : EntryBacked search reach untold looks key e)
    (hmono : ∀ p, p.components ∈ e.sources → untold p.components ∨ looks p ≠ looks' p →
      untold' p.components) : EntryBacked search reach untold' looks' key e := by
  obtain ⟨ws, path, old, probed, hkey, hsearch, hsources, hprobed⟩ := h
  refine ⟨ws, path, old, probed, hkey, hsearch, hsources, fun p hp => ⟨(hprobed p hp).1, ?_⟩⟩
  have hsource : p.components ∈ e.sources := hsources ▸ List.mem_map_of_mem hp
  by_cases hlook : looks p = looks' p
  · exact (hprobed p hp).2.imp (fun hu => hmono p hsource (.inl hu)) fun ho => ho.trans hlook
  · exact .inl (hmono p hsource (.inr hlook))

namespace Backed

/-- Nothing is remembered that no search came to. -/
protected lemma empty : (FileCache.empty : FileCache α).Backed search reach untold looks where
  indexed := .empty
  entry h := by cases h

/-- A change of the tree leaves untold what it changes. -/
protected lemma change (h : c.Backed search reach untold looks) {untold' : Location → Prop}
    {looks' : Probe}
    (hmono : ∀ p : Path, untold p.components ∨ looks p ≠ looks' p → untold' p.components) :
    c.Backed search reach untold' looks' where
  indexed := h.indexed
  entry he := (h.entry he).mono fun p _ => hmono p

/-- After an invalidation the path is no longer untold. -/
protected lemma invalidate (h : c.Backed search reach untold looks) {untold' : Location → Prop}
    {source : Location} (hmono : ∀ s, s ≠ source → untold s → untold' s) :
    (c.invalidate source).Backed search reach untold' looks where
  indexed := h.indexed.invalidate source
  entry he := by
    obtain ⟨he, hsource⟩ := (find?_invalidate h.indexed source).1 he
    refine (h.entry he).mono fun p hp huntold => hmono _ (fun heq => hsource (heq ▸ hp)) ?_
    exact huntold.resolve_right fun hne => hne rfl

/-- A cache stays backed when a workspace folder is cleared. -/
protected lemma clearWorkspace (h : c.Backed search reach untold looks) (workspace : Location) :
    (c.clearWorkspace workspace).Backed search reach untold looks where
  indexed := h.indexed.clearWorkspace workspace
  entry he := h.entry ((find?_clearWorkspace h.indexed workspace).1 he).1

/-- A value that a search has just come to is backed. -/
protected lemma insert (h : c.Backed search reach untold looks) {ws path : Path} {v : α}
    {probed : List Path} (hsearch : search looks ws path = .ok (v, probed))
    (hreach : ∀ p ∈ probed, reach p) :
    (c.insert (.of ws path) v (probed.map Path.components)).Backed search reach untold looks where
  indexed := h.indexed.insert _ _ _
  entry {key e} he := by
    rw [find?_insert] at he
    split at he
    · rename_i hkey
      cases he
      exact ⟨ws, path, looks, probed, hkey, hsearch, rfl, fun p hp => ⟨hreach p hp, .inr rfl⟩⟩
    · exact h.entry he

/-- **A recalled value** is like one that is searched for, where nothing is untold, and is
remembered with the paths that the search would look at.

**Proof sketch.** What is remembered is what a search came to from a path that is the same. Of the
paths that it looked at the tree says what it said then, so the same search now comes to the
like. -/
protected lemma recollect {candidates : Path → List Path} {Like : α → α → Prop}
    (hlocal : search.Local candidates Like) (hrefl : ∀ v, Like v v)
    (h : c.Backed search reach (fun _ => False) looks)
    (heven : EvenHanded looks reach) {path : Path}
    (hreach : ∀ p ∈ candidates path, reach p) (ws : Path) :
    (c.recollect search looks ws path).2.Backed search reach (fun _ => False) looks ∧
      Faithful Like
        (fun v sources => (c.recollect search looks ws path).2.find? (.of ws path) =
          some ⟨v, sources⟩)
        (c.recollect search looks ws path).1 (search looks ws path) := by
  rcases hknown : c.find? (.of ws path) with _ | e
  · obtain ⟨e, hsearch, heq⟩ | ⟨v, probed, hsearch, heq⟩ :=
      recollect_of_unknown hknown search looks
    · rw [heq, hsearch]
      exact ⟨h, .error e⟩
    · rw [heq, hsearch]
      refine ⟨h.insert hsearch fun p hp => hreach p (hlocal.subset hsearch hp), .ok (hrefl v) ?_⟩
      rw [find?_insert, if_pos rfl]
  · obtain ⟨ws', path', old, probed', hkey, hold, hsources, hprobed⟩ := h.entry hknown
    have hws : ws'.Same ws := (congrArg CacheKey.workspace hkey).symm
    have hpath : path'.Same path := (congrArg CacheKey.path hkey).symm
    have hagree : ∀ p ∈ probed', ∀ p' ∈ candidates path, p.Same p' → looks p' = old p := by
      intro p hp p' hp' hsame
      obtain ⟨hr, hf | hsaid⟩ := hprobed p hp
      · exact hf.elim
      · rw [hsaid, heven p p' hr (hreach p' hp') hsame]
    obtain ⟨v, probed, hsearch, hlike, hsame⟩ := hlocal.agree hws hpath hold hagree
    rw [recollect_of_known hknown, hsearch]
    refine ⟨h, .ok hlike ?_⟩
    rw [hknown, ← hsame, ← hsources]

end Backed

end

end FileCache

/-! ## The two that are one -/

/-- The root of a path is recalled, with its search. -/
lemma PackageRoots.find_eq (r : PackageRoots) (probe : Probe) (ws path : Path) :
    r.find probe ws path =
      ((r.cache.recollect (rootSearch r.marker) probe ws path).1,
        { r with
          cache := (r.cache.recollect (rootSearch r.marker) probe ws path).2
          walks := if (r.known? ws path).isSome then r.walks else r.walks + 1 }) := by
  unfold find known? FileCache.recollect rootSearch
  rcases r.cache.get? (.of ws path) with _ | v
  · rcases hs : findPackageRoot probe path r.marker with e | s <;>
      simp [hs, Except.map, remember]
  · rfl

/-- The configuration of a path is recalled, with its search. -/
lemma PnpLoaders.find_eq (l : PnpLoaders) (probe : Probe) (ws path : Path) :
    l.find probe ws path =
      ((l.cache.recollect loaderSearch probe ws path).1,
        ⟨(l.cache.recollect loaderSearch probe ws path).2⟩) := by
  unfold find known? FileCache.recollect loaderSearch
  rcases l.cache.get? (.of ws path) with _ | v
  · rcases findPnp probe path with e | s <;> rfl
  · rfl

end LintPool
