import LintPool.Proofs.Search.Locality

set_option autoImplicit false

/-!
# Paths without NUL

The paths that a search goes through are made of the path that it starts from and of the names that
it looks for. So none of them has a NUL if these have none.

## Main definitions

* `LintPool.Path.NulFree` — a path has no NUL.

## Main results

* `LintPool.Path.NulFree.candidates` — the paths that a search looks at have no NUL.
-/

namespace LintPool

namespace Path

/-- A path has no NUL. -/
def NulFree (p : Path) : Prop :=
  '\x00' ∉ p.chars

instance (p : Path) : Decidable p.NulFree :=
  inferInstanceAs (Decidable ('\x00' ∉ p.chars))

/-- The characters of a joined path. -/
lemma mem_chars_join {p q : Path} {c : Char} (h : c ∈ (p.join q).chars) :
    c = '/' ∨ c ∈ p.chars ∨ c ∈ q.chars := by
  unfold join at h
  split_ifs at h
  · exact .inr (.inr h)
  · have hboth : c ∈ p.chars ++ q.chars := by simpa [chars] using h
    exact .inr (List.mem_append.1 hboth)
  · have hall : c ∈ p.chars ++ '/' :: q.chars := by simpa [chars] using h
    rcases List.mem_append.1 hall with h | h
    · exact .inr (.inl h)
    · exact (List.mem_cons.1 h).imp id .inr

/-- Two paths without NUL are joined to a path without. -/
lemma NulFree.join {p q : Path} (hp : p.NulFree) (hq : q.NulFree) : (p.join q).NulFree := by
  intro h
  rcases mem_chars_join h with h | h | h
  · cases h
  · exact hp h
  · exact hq h

/-- A path without NUL has none when it is seen from a folder without. -/
lemma NulFree.seenFrom {p folder : Path} (hp : p.NulFree) (hfolder : folder.NulFree) :
    (p.seenFrom folder).NulFree := by
  unfold Path.seenFrom
  split
  · exact hp
  · exact hfolder.join hp

/-- The characters of a piece are characters of the text. -/
lemma mem_of_mem_pieces {cs piece : List Char} (h : piece ∈ pieces cs) {c : Char}
    (hc : c ∈ piece) : c ∈ cs := by
  induction cs generalizing piece with
  | nil => simp_all [pieces]
  | cons d cs ih =>
    by_cases hd : d = '/'
    · rw [pieces, if_pos hd] at h
      rcases List.mem_cons.1 h with rfl | h
      · cases hc
      · exact List.mem_cons_of_mem d (ih h hc)
    · obtain ⟨first, rest, hcs, hcons⟩ := pieces_cons_of_ne cs hd
      rw [hcons] at h
      rcases List.mem_cons.1 h with rfl | h
      · rcases List.mem_cons.1 hc with rfl | hc
        · exact List.mem_cons_self
        · exact List.mem_cons_of_mem d (ih (hcs ▸ List.mem_cons_self) hc)
      · exact List.mem_cons_of_mem d (ih (hcs ▸ List.mem_cons_of_mem first h) hc)

/-- The characters of joined pieces. -/
lemma mem_unpieces {ps : List (List Char)} {c : Char} (h : c ∈ unpieces ps) :
    c = '/' ∨ ∃ piece ∈ ps, c ∈ piece := by
  induction ps with
  | nil => cases h
  | cons piece ps ih =>
    cases ps with
    | nil => exact .inr ⟨piece, List.mem_cons_self, h⟩
    | cons next ps =>
      rw [unpieces, List.mem_append, List.mem_cons] at h
      · rcases h with h | h | h
        · exact .inr ⟨piece, List.mem_cons_self, h⟩
        · exact .inl h
        · rcases ih h with hslash | ⟨q, hq, hc⟩
          · exact .inl hslash
          · exact .inr ⟨q, List.mem_cons_of_mem _ hq, hc⟩
      · exact List.cons_ne_nil _ _

/-- Its parent has none. -/
lemma NulFree.parent? {p q : Path} (hp : p.NulFree) (h : p.parent? = some q) : q.NulFree := by
  intro hnul
  unfold Path.parent? at h
  dsimp only at h
  split at h
  · cases h
  · rename_i last before hlast
    split at h
    · cases h
      cases habs : p.isAbsolute <;> simp [habs, chars] at hnul
    · rename_i hkept
      cases h
      -- what is kept are pieces of `p`
      have hsub : dropTrailing p.isAbsolute before ⊆ (pieces p.chars).reverse := fun piece h =>
        (dropTrailing_suffix _ _).subset
          (hlast ▸ List.mem_cons_of_mem _ ((dropTrailing_suffix _ _).subset h))
      rw [chars, String.toList_ofList] at hnul
      rcases mem_unpieces hnul with h | ⟨piece, hpiece, hc⟩
      · cases h
      · exact hp (mem_of_mem_pieces (List.mem_reverse.1 (hsub (List.mem_reverse.1 hpiece))) hc)

/-- The folders above it have none. -/
lemma NulFree.above {p q : Path} (hp : p.NulFree) {fuel : Nat} (h : q ∈ p.above fuel) :
    q.NulFree := by
  induction fuel generalizing p with
  | zero => cases h
  | succ fuel ih =>
    rw [Path.above] at h
    cases hup : p.parent? with
    | none =>
      rw [hup] at h
      cases h
    | some up =>
      rw [hup] at h
      rcases List.mem_cons.1 h with rfl | h
      · exact hp.parent? hup
      · exact ih (hp.parent? hup) h

/-- **The paths that a search looks at** have no NUL if the path that it starts from and the names
have none. -/
lemma NulFree.candidates {start p : Path} (hstart : start.NulFree) {names : List String}
    (hnames : ∀ name ∈ names, (⟨name⟩ : Path).NulFree) (h : p ∈ candidates start names) :
    p.NulFree := by
  obtain ⟨folder, hfolder, h⟩ := List.mem_flatMap.1 h
  obtain ⟨name, hname, rfl⟩ := List.mem_map.1 h
  have hfree : folder.NulFree := by
    rcases List.mem_cons.1 hfolder with rfl | hfolder
    · exact hstart
    · exact hstart.above hfolder
  exact hfree.join (hnames name hname)

end Path

end LintPool
