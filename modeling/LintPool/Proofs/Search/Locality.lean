import LintPool.Cache.PackageRoots
import LintPool.Proofs.Path.Components
import LintPool.Search.Pnp
import LintPool.Worker.Context

set_option autoImplicit false

/-!
# A search depends on what it looked at

A search that comes to an end has looked at the paths that it records, and at nothing else. So a
search from a path that is the same, in a tree that says the same about the recorded paths, comes to
the same.

## Main definitions

* `LintPool.loaderCandidates` — the paths that a search for a configuration may look at.
* `LintPool.UpwardSearch.Same`, `LintPool.PnpSearch.Same` — two searches come to the same.

## Main results

* `LintPool.findUpward_same`, `LintPool.findPnp_same` — a search that finds the recorded paths as
  they were comes to the same.
* `LintPool.UpwardSearch.Same.rootOf` — and so to the same root.
-/

namespace LintPool

/-! ## Coming to the same -/

/-- Two optional paths are the same. -/
def SamePath? (p q : Option Path) : Prop :=
  p.map Path.components = q.map Path.components

/-- Two searches come to the same and have looked at the same paths. -/
structure UpwardSearch.Same (s t : UpwardSearch) : Prop where
  /-- They found the same file. -/
  found : SamePath? s.found t.found
  /-- They looked at the same paths. -/
  probed : s.probed.map Path.components = t.probed.map Path.components

/-- Two searches come to the same and have looked at the same paths. -/
structure PnpSearch.Same (s t : PnpSearch) : Prop where
  /-- They found the same scripts. -/
  configuration : samePnp s.configuration t.configuration = true
  /-- They looked at the same paths. -/
  probed : s.probed.map Path.components = t.probed.map Path.components

/-- What leads from paths that are the same to paths that are the same also does so for optional
paths. -/
lemma SamePath?.bind {p q : Option Path} (h : SamePath? p q) {f : Path → Option Path}
    (hf : ∀ a b : Path, a.Same b → SamePath? (f a) (f b)) : SamePath? (p.bind f) (q.bind f) := by
  cases p <;> cases q
  · rfl
  · cases h
  · cases h
  · exact hf _ _ (Option.some.inj h)

/-- A path that is kept or dropped alike. -/
lemma SamePath?.filter {p q : Option Path} (h : SamePath? p q) {f g : Path → Bool}
    (hfg : ∀ a b : Path, a.Same b → f a = g b) : SamePath? (p.filter f) (q.filter g) := by
  cases p <;> cases q
  · rfl
  · cases h
  · cases h
  · rename_i a b
    have hab : a.Same b := Option.some.inj h
    rw [Option.filter_some, Option.filter_some, hfg a b hab]
    split
    · exact h
    · rfl

/-- Searches that come to the same come to the same root, for workspace folders that are the
same. -/
lemma UpwardSearch.Same.rootOf {s t : UpwardSearch} (h : s.Same t) {ws ws' : Path}
    (hws : ws.Same ws') : SamePath? (PackageRoots.rootOf ws s) (PackageRoots.rootOf ws' t) :=
  (h.found.bind fun _ _ hab => hab.map_parent?).filter fun _ _ hab => hab.within hws

/-! ## The candidates -/

/-- The paths that a search for a configuration may look at: the register scripts, and the loader
beside each. -/
def loaderCandidates (start : Path) : List Path :=
  candidates start registerNames ++ (candidates start registerNames).map (·.sibling loaderName)

/-- The candidates above paths that are the same are the same. -/
lemma candidates_same {start start' : Path} (h : start.Same start') (names : List String) :
    List.Forall₂ Path.Same (candidates start names) (candidates start' names) := by
  refine List.rel_flatMap h.ancestors fun folder folder' hfolder => ?_
  rw [List.forall₂_map_left_iff, List.forall₂_map_right_iff]
  exact List.forall₂_same.2 fun name _ => hfolder.join rfl

/-- What a search records are candidates. -/
lemma probed_subset_of_searchAlong {probe : Probe} {ps : List Path} {s : UpwardSearch}
    (h : searchAlong probe ps = .ok s) : s.probed ⊆ ps := by
  induction ps generalizing s with
  | nil =>
    cases h
    exact List.Subset.refl _
  | cons p ps ih =>
    rw [searchAlong] at h
    rcases hlook : probe p with e | _ | _ <;> simp only [hlook] at h
    · cases h
    · rcases hfurther : searchAlong probe ps with e | t <;> simp only [hfurther] at h
      · cases h
      · cases h
        exact List.cons_subset_cons p (ih hfurther)
    · cases h
      simp

/-- What a search finds is a candidate. -/
lemma mem_of_found {probe : Probe} {ps : List Path} {s : UpwardSearch} {p : Path}
    (h : searchAlong probe ps = .ok s) (hfound : s.found = some p) : p ∈ ps := by
  induction ps generalizing s with
  | nil =>
    cases h
    cases hfound
  | cons q ps ih =>
    rw [searchAlong] at h
    rcases hlook : probe q with e | _ | _ <;> simp only [hlook] at h
    · cases h
    · rcases hfurther : searchAlong probe ps with e | t <;> simp only [hfurther] at h
      · cases h
      · cases h
        exact List.mem_cons_of_mem _ (ih hfurther hfound)
    · cases h
      cases hfound
      exact List.mem_cons_self

/-- What a search for a configuration records are candidates. -/
lemma probed_subset_of_findPnp {probe : Probe} {start : Path} {s : PnpSearch}
    (h : findPnp probe start = .ok s) : s.probed ⊆ loaderCandidates start := by
  unfold findPnp at h
  rcases hup : findUpward probe start registerNames with e | ⟨_ | register, probed⟩ <;>
    simp only [hup] at h
  · cases h
  · cases h
    exact List.subset_append_of_subset_left _ (probed_subset_of_searchAlong hup)
  · rcases hlook : probe (register.sibling loaderName) with e | there <;> simp only [hlook] at h
    · cases h
    · cases h
      refine List.append_subset.2
        ⟨List.subset_append_of_subset_left _ (probed_subset_of_searchAlong hup), ?_⟩
      exact List.cons_subset.2
        ⟨List.mem_append_right _ (List.mem_map_of_mem (mem_of_found hup rfl)), List.nil_subset _⟩

/-! ## Locality -/

/-- **Locality**: a search along paths that are the same, where those that were looked at are as
they were, comes to the same.

**Proof sketch.** Induction on the paths. The first one is looked at in any case, so both searches
stop there or both go on. -/
lemma searchAlong_same {probe probe' : Probe} {ps ps' : List Path}
    (hsame : List.Forall₂ Path.Same ps ps') {s : UpwardSearch} (h : searchAlong probe ps = .ok s)
    (hagree : ∀ p ∈ s.probed, ∀ p' ∈ ps', p.Same p' → probe' p' = probe p) :
    ∃ s', searchAlong probe' ps' = .ok s' ∧ s.Same s' := by
  induction hsame generalizing s with
  | nil =>
    cases h
    exact ⟨_, rfl, rfl, rfl⟩
  | @cons p p' rest rest' hp hrest ih =>
    rw [searchAlong] at h
    have hlook' : p ∈ s.probed → probe' p' = probe p := fun hp' =>
      hagree p hp' p' List.mem_cons_self hp
    rcases hlook : probe p with e | _ | _ <;> simp only [hlook] at h
    · cases h
    · rcases hfurther : searchAlong probe rest with e | t <;> simp only [hfurther] at h
      · cases h
      · cases h
        obtain ⟨t', ht', hsame⟩ := ih hfurther fun q hq q' hq' =>
          hagree q (List.mem_cons_of_mem _ hq) q' (List.mem_cons_of_mem _ hq')
        refine ⟨{ t' with probed := p' :: t'.probed }, ?_, hsame.found, ?_⟩
        · rw [searchAlong, hlook' List.mem_cons_self, hlook, ht']
        · exact congrArg₂ List.cons hp hsame.probed
    · cases h
      refine ⟨⟨some p', [p']⟩, ?_, congrArg some hp, congrArg ([·]) hp⟩
      rw [searchAlong, hlook' List.mem_cons_self, hlook]

/-- A search upward from a path that is the same, where the recorded paths are as they were, comes
to the same. -/
lemma findUpward_same {probe probe' : Probe} {start start' : Path} {names : List String}
    (hstart : start.Same start') {s : UpwardSearch} (h : findUpward probe start names = .ok s)
    (hagree : ∀ p ∈ s.probed, ∀ p' ∈ candidates start' names, p.Same p' → probe' p' = probe p) :
    ∃ s', findUpward probe' start' names = .ok s' ∧ s.Same s' :=
  searchAlong_same (candidates_same hstart names) h hagree

/-- A search for a configuration from a path that is the same, where the recorded paths are as they
were, comes to the same. -/
lemma findPnp_same {probe probe' : Probe} {start start' : Path} (hstart : start.Same start')
    {s : PnpSearch} (h : findPnp probe start = .ok s)
    (hagree : ∀ p ∈ s.probed, ∀ p' ∈ loaderCandidates start', p.Same p' → probe' p' = probe p) :
    ∃ s', findPnp probe' start' = .ok s' ∧ s.Same s' := by
  unfold findPnp at h ⊢
  rcases hup : findUpward probe start registerNames with e | ⟨_ | register, probed⟩ <;>
    simp only [hup] at h
  · cases h
  · cases h
    obtain ⟨⟨found', probed'⟩, hup', hfound, hprobed⟩ := findUpward_same hstart hup
      fun p hp p' hp' => hagree p hp p' (List.mem_append_left _ hp')
    cases found' with
    | some _ => cases hfound
    | none => exact ⟨⟨none, probed'⟩, by rw [hup'], rfl, hprobed⟩
  · rcases hlook : probe (register.sibling loaderName) with e | there <;> simp only [hlook] at h
    · cases h
    · cases h
      obtain ⟨⟨found', probed'⟩, hup', hfound, hprobed⟩ := findUpward_same hstart hup
        fun p hp p' hp' => hagree p (List.mem_append_left _ hp) p' (List.mem_append_left _ hp')
      cases found' with
      | none => cases hfound
      | some register' =>
        have hregister : register.Same register' := Option.some.inj hfound
        have hloader := hregister.sibling loaderName
        have hlook' : probe' (register'.sibling loaderName) = .ok there := by
          refine (hagree _ (by simp) _ (List.mem_append_right _ ?_) hloader).trans hlook
          exact List.mem_map_of_mem (mem_of_found hup' rfl)
        refine ⟨⟨some ⟨register', if there then some (register'.sibling loaderName) else none⟩,
          probed' ++ [register'.sibling loaderName]⟩, by rw [hup']; dsimp only; rw [hlook'], ?_, ?_⟩
        · refine decide_eq_true ⟨hregister, ?_⟩
          cases there
          · rfl
          · exact congrArg some hloader
        · rw [List.map_append, List.map_append, hprobed, List.map_singleton, List.map_singleton,
            hloader]

end LintPool
