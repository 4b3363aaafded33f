import LintPool.Proofs.Cache.Transparency

set_option autoImplicit false

/-!
# What holds of every entry

What is put into a cache is what a search comes to, and otherwise entries only go. So whatever holds
of all that a search may come to holds of every entry, and of everything that is recalled.

## Main definitions

* `LintPool.FileCache.All` — something holds of every entry.

## Main results

* `LintPool.FileCache.All.recollect` — it holds of what is recalled or searched for.
* `LintPool.Outlook.all_roots_run` — it holds of the roots in every run.
* `LintPool.PackageRoots.root_findForRequest` — where the root for a request comes from.
-/

namespace LintPool

/-! ## Caches -/

namespace FileCache

variable {α : Type} {P : CacheKey → α → Prop} {c : FileCache α}

/-- Something holds of every entry. -/
def All (P : CacheKey → α → Prop) (c : FileCache α) : Prop :=
  ∀ x ∈ c.entries, P x.1 x.2.value

/-- It holds of every entry of an empty cache. -/
lemma All.empty : (empty : FileCache α).All P :=
  fun _ h => absurd h List.not_mem_nil

/-- An insertion keeps it, if it holds of what is inserted. -/
lemma All.insert (h : c.All P) {key : CacheKey} {value : α} (hvalue : P key value)
    (sources : List Location) : (c.insert key value sources).All P := by
  intro x hx
  rw [entries_insert, ScanCache.insert] at hx
  rcases List.mem_append.1 hx with hx | hx
  · exact h x (List.mem_filter.1 hx).1
  · cases List.mem_singleton.1 hx
    exact hvalue

/-- An invalidation keeps it, for it only removes entries. -/
lemma All.invalidate (h : c.All P) (source : Location) : (c.invalidate source).All P := by
  intro x hx
  rw [FileCache.invalidate, entries_foldl_erase] at hx
  exact h x (List.mem_filter.1 hx).1

/-- So does clearing a workspace folder. -/
lemma All.clearWorkspace (h : c.All P) (ws : Location) : (c.clearWorkspace ws).All P := by
  intro x hx
  rw [entries_clearWorkspace, ScanCache.clearWorkspace] at hx
  exact h x (List.mem_filter.1 hx).1

/-- It holds of what is found. -/
lemma All.get? (h : c.All P) {key : CacheKey} {v : α} (hv : c.get? key = some v) : P key v := by
  unfold FileCache.get? FileCache.find? at hv
  obtain ⟨e, he, rfl⟩ := Option.map_eq_some_iff.1 hv
  obtain ⟨x, hx, rfl⟩ := Option.map_eq_some_iff.1 he
  have hkey : x.1 = key := by simpa using List.find?_some hx
  exact hkey ▸ h x (List.mem_of_find?_eq_some hx)

/-- **What holds of all that a search may come to** holds of what is recalled or searched for, and
of every entry after that. -/
lemma All.recollect (h : c.All P) {search : Search α} {probe : Probe} {ws path : Path}
    (hsearch : ∀ v probed, search probe ws path = .ok (v, probed) → P (.of ws path) v) :
    (c.recollect search probe ws path).2.All P ∧
      ∀ v, (c.recollect search probe ws path).1 = .ok v → P (.of ws path) v := by
  unfold FileCache.recollect
  cases hknown : c.get? (.of ws path) with
  | some v =>
    refine ⟨h, fun v' hv' => ?_⟩
    cases hv'
    exact h.get? hknown
  | none =>
    rcases hfound : search probe ws path with e | ⟨v, probed⟩
    · exact ⟨h, fun v' hv' => by cases hv'⟩
    · have hv := hsearch v probed hfound
      refine ⟨h.insert hv _, fun v' hv' => ?_⟩
      cases hv'
      exact hv

end FileCache

/-! ## Roots -/

namespace PackageRoots

variable {P : CacheKey → Option Path → Prop} {r : PackageRoots} {probe : Probe} {ws : Path}

/-- A lookup of the root of a path. -/
lemma all_find (h : r.cache.All P) {path : Path} (hsearch : ∀ root probed,
      rootSearch r.marker probe ws path = .ok (root, probed) → P (.of ws path) root) :
    (r.find probe ws path).2.marker = r.marker ∧ (r.find probe ws path).2.cache.All P ∧
      ∀ root, (r.find probe ws path).1 = .ok root → P (.of ws path) root := by
  rw [find_eq]
  exact ⟨rfl, h.recollect hsearch⟩

/-- A root that is found for a request comes from its code file, or from the folder that the linter
is installed for. -/
def ComesFrom (P : CacheKey → Option Path → Prop) (ws : Path) (file linter : Option Path)
    (root : Path) : Prop :=
  (∃ p, file = some p ∧ P (.of ws p) (some root)) ∨
    ∃ l, linter = some l ∧ P (.of ws (installerOf (l.seenFrom ws))) (some root)

/-- A lookup of the root of the package that installed the linter. -/
lemma root_findForLinter (h : r.cache.All P) (hsearch : ∀ path root probed,
      rootSearch r.marker probe ws path = .ok (root, probed) → P (.of ws path) root)
    (linter : Option Path) :
    (r.findForLinter probe ws linter).2.marker = r.marker ∧
      (r.findForLinter probe ws linter).2.cache.All P ∧
      ∀ root, (r.findForLinter probe ws linter).1 = .ok (some root) →
        ∃ l, linter = some l ∧ P (.of ws (installerOf (l.seenFrom ws))) (some root) := by
  cases linter with
  | none => exact ⟨rfl, h, fun root hroot => by cases hroot⟩
  | some l =>
    obtain ⟨hmarker, hall, hfound⟩ := all_find h (hsearch (installerOf (l.seenFrom ws)))
    exact ⟨hmarker, hall, fun root hroot => ⟨l, rfl, hfound _ hroot⟩⟩

/-- **Where the root for a request comes from.** -/
lemma root_findForRequest (h : r.cache.All P) (hsearch : ∀ path root probed,
      rootSearch r.marker probe ws path = .ok (root, probed) → P (.of ws path) root)
    (file linter : Option Path) :
    (r.findForRequest probe ws file linter).2.marker = r.marker ∧
      (r.findForRequest probe ws file linter).2.cache.All P ∧
      ∀ root, (r.findForRequest probe ws file linter).1 = .ok (some root) →
        ComesFrom P ws file linter root := by
  unfold findForRequest
  cases file with
  | none =>
    obtain ⟨hmarker, hall, hfound⟩ := root_findForLinter h hsearch linter
    exact ⟨hmarker, hall, fun root hroot => .inr (hfound root hroot)⟩
  | some p =>
    obtain ⟨hmarker, hall, hfound⟩ := all_find h (hsearch p)
    rcases hfind : r.find probe ws p with ⟨e | _ | root, r'⟩ <;>
      rw [hfind] at hmarker hall hfound <;> simp only [hfind]
    · exact ⟨hmarker, hall, fun root hroot => by cases hroot⟩
    · obtain ⟨hmarker', hall', hfound'⟩ :=
        root_findForLinter hall (fun path => hmarker ▸ hsearch path) linter
      exact ⟨hmarker'.trans hmarker, hall', fun root hroot => .inr (hfound' root hroot)⟩
    · refine ⟨hmarker, hall, fun root' hroot => .inl ⟨p, rfl, ?_⟩⟩
      cases hroot
      exact hfound _ rfl

end PackageRoots

/-! ## Configurations -/

/-- A lookup of the configuration that governs a path. -/
lemma PnpLoaders.all_find {P : CacheKey → Option PnpConfiguration → Prop} {l : PnpLoaders}
    {probe : Probe} {ws path : Path} (h : l.cache.All P)
    (hsearch : ∀ s, findPnp probe path = .ok s → P (.of ws path) s.configuration) :
    (l.find probe ws path).2.cache.All P ∧
      ∀ configuration, (l.find probe ws path).1 = .ok configuration →
        P (.of ws path) configuration := by
  rw [find_eq]
  refine h.recollect fun configuration probed hfound => ?_
  obtain ⟨s, hs, heq⟩ := map_eq_ok hfound
  cases heq
  exact hsearch s hs

/-! ## Runs -/

namespace Outlook

/-- What holds of all roots that may be found holds of every root that is remembered. -/
theorem all_roots_run {marker : String} {P : CacheKey → Option Path → Prop}
    (hsearch : ∀ probe ws path root probed,
      rootSearch marker probe ws path = .ok (root, probed) → P (.of ws path) root)
    (looks : Probe) (es : List Event) :
    ((start marker looks).run es).memory.roots.marker = marker ∧
      ((start marker looks).run es).memory.roots.cache.All P := by
  induction es using List.reverseRecOn with
  | nil => exact ⟨rfl, .empty⟩
  | append_singleton es e ih =>
    obtain ⟨hmarker, hall⟩ := ih
    rw [run_append]
    generalize (start marker looks).run es = o at hmarker hall
    have hsearch' : ∀ ws path root probed, rootSearch o.memory.roots.marker o.looks ws path =
        .ok (root, probed) → P (.of ws path) root :=
      fun ws path => hmarker ▸ hsearch o.looks ws path
    cases e with
    | change looks => exact ⟨hmarker, hall⟩
    | ask q =>
      cases q with
      | root ws path =>
        obtain ⟨hkept, hall', -⟩ := PackageRoots.all_find hall (hsearch' ws path)
        exact ⟨hkept.trans hmarker, hall'⟩
      | request ws file linter =>
        obtain ⟨hkept, hall', -⟩ :=
          PackageRoots.root_findForRequest hall (hsearch' ws) file linter
        exact ⟨hkept.trans hmarker, hall'⟩
      | loader ws path => exact ⟨hmarker, hall⟩
    | invalidate kind p =>
      cases kind with
      | roots => exact ⟨hmarker, hall.invalidate _⟩
      | loaders => exact ⟨hmarker, hall⟩
    | clearWorkspace kind ws =>
      cases kind with
      | roots => exact ⟨hmarker, hall.clearWorkspace _⟩
      | loaders => exact ⟨hmarker, hall⟩
    | clear kind =>
      cases kind with
      | roots => exact ⟨hmarker, .empty⟩
      | loaders => exact ⟨hmarker, hall⟩

end Outlook

end LintPool
