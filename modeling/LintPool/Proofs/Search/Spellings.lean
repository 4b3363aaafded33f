import LintPool.Proofs.FileTree.Walks
import LintPool.Proofs.Search.Locality

set_option autoImplicit false

/-!
# Searches from spellings of one path

In one tree a path and another spelling of it lead to the same object, unless one of them cannot be
read. So searches from two spellings, if both come to an end, find the same.

## Main results

* `LintPool.searchAlong_spellings` — a search along other spellings, that comes to an end, finds the
  same.
* `LintPool.findPnp_spellings` — the configuration does not depend on the spelling of the path.
-/

namespace LintPool

/-- What is looked at along other spellings is the same, if both can be looked at. -/
def AgreesAlong (probe : Probe) (ps ps' : List Path) : Prop :=
  ∀ p ∈ ps, ∀ p' ∈ ps', p.Same p' → ∀ b b', probe p = .ok b → probe p' = .ok b' → b = b'

/-- **A search along other spellings**, that comes to an end, finds the same. -/
lemma searchAlong_spellings {probe : Probe} {ps ps' : List Path}
    (hsame : List.Forall₂ Path.Same ps ps') (hagree : AgreesAlong probe ps ps')
    {s s' : UpwardSearch} (hs : searchAlong probe ps = .ok s)
    (hs' : searchAlong probe ps' = .ok s') : s.Same s' := by
  induction hsame generalizing s s' with
  | nil =>
    cases hs
    cases hs'
    exact ⟨rfl, rfl⟩
  | @cons p p' rest rest' hp hrest ih =>
    have hfirst := hagree p List.mem_cons_self p' List.mem_cons_self hp
    have hfurther : AgreesAlong probe rest rest' := fun q hq q' hq' =>
      hagree q (List.mem_cons_of_mem _ hq) q' (List.mem_cons_of_mem _ hq')
    rw [searchAlong] at hs hs'
    rcases hlook : probe p with e | b
    · rw [hlook] at hs
      cases hs
    · rcases hlook' : probe p' with e | b'
      · rw [hlook'] at hs'
        cases hs'
      · obtain rfl := hfirst b b' hlook hlook'
        rw [hlook] at hs
        rw [hlook'] at hs'
        cases b with
        | true =>
          cases hs
          cases hs'
          exact ⟨congrArg some hp, congrArg ([·]) hp⟩
        | false =>
          dsimp only at hs hs'
          rcases ht : searchAlong probe rest with e | t <;> rw [ht] at hs
          · cases hs
          · rcases ht' : searchAlong probe rest' with e | t' <;> rw [ht'] at hs'
            · cases hs'
            · cases hs
              cases hs'
              have hthe := ih hfurther ht ht'
              exact ⟨hthe.found, congrArg₂ List.cons hp hthe.probed⟩

/-- A register script that is looked for ends in its name. -/
lemma endsIn_of_mem_candidates {start p : Path} (h : p ∈ candidates start registerNames) :
    ∃ name ∈ registerNames, p.EndsIn name.toList := by
  obtain ⟨folder, -, h⟩ := List.mem_flatMap.1 h
  obtain ⟨name, hname, rfl⟩ := List.mem_map.1 h
  have hslash : ∀ name ∈ registerNames, '/' ∉ name.toList := by decide
  exact ⟨name, hname, folder.endsIn_join (hslash name hname)⟩

/-- A loader that is looked for ends in its name. -/
lemma endsIn_loader (register : Path) : (register.sibling loaderName).EndsIn loaderName.toList := by
  unfold Path.sibling
  split <;> exact Path.endsIn_join _ (by decide)

/-- **The configuration that is found** does not depend on the spelling of the path. -/
theorem findPnp_spellings {t : FileTree} {start start' : Path} (h : start.Same start')
    {s s' : PnpSearch} (hs : findPnp t.isFile start = .ok s)
    (hs' : findPnp t.isFile start' = .ok s') :
    samePnp s.configuration s'.configuration = true := by
  have hmoves : ∀ name ∈ registerNames, staysHere name.toList = false := by decide
  have hagree : AgreesAlong t.isFile (candidates start registerNames)
      (candidates start' registerNames) := by
    intro p hp p' hp' hsame b b' hb hb'
    obtain ⟨name, hname, hends⟩ := endsIn_of_mem_candidates hp
    obtain ⟨name', hname', hends'⟩ := endsIn_of_mem_candidates hp'
    exact FileTree.isFile_same hsame hends hends' (hmoves _ hname) (hmoves _ hname') hb hb'
  unfold findPnp findUpward at hs hs'
  rcases hup : searchAlong t.isFile (candidates start registerNames) with e | u <;>
    rw [hup] at hs
  · cases hs
  · rcases hup' : searchAlong t.isFile (candidates start' registerNames) with e | u' <;>
      rw [hup'] at hs'
    · cases hs'
    · obtain ⟨hfound, -⟩ := searchAlong_spellings (candidates_same h registerNames) hagree hup hup'
      obtain ⟨found, probed⟩ := u
      obtain ⟨found', probed'⟩ := u'
      cases found with
      | none =>
        cases found' with
        | none =>
          cases hs
          cases hs'
          rfl
        | some register' => cases hfound
      | some register =>
        cases found' with
        | none => cases hfound
        | some register' =>
          have hregister : register.Same register' := Option.some.inj hfound
          have hsibling := hregister.sibling loaderName
          dsimp only at hs hs'
          rcases hlook : t.isFile (register.sibling loaderName) with e | b <;> rw [hlook] at hs
          · cases hs
          · rcases hlook' : t.isFile (register'.sibling loaderName) with e | b' <;>
              rw [hlook'] at hs'
            · cases hs'
            · have hboth : b = b' := FileTree.isFile_same hsibling (endsIn_loader _)
                (endsIn_loader _) (by decide) (by decide) hlook hlook'
              subst hboth
              cases hs
              cases hs'
              refine decide_eq_true ⟨hregister, ?_⟩
              cases b
              · rfl
              · exact congrArg some hsibling

end LintPool
