import Mathlib.Data.List.Forall2
import Mathlib.Tactic.Common
import LintPool.Path

set_option autoImplicit false

/-!
# Paths by their components

What a path names is its list of components. Here the operations on paths are followed on these
lists: going down appends names, going up leaves out the last component, and what lies above a path
is found from its components alone. So paths that are the same lead to paths that are the same.

## Main definitions

* `LintPool.Path.componentsBackwards` — the components of pieces that are given from the end.
* `LintPool.Path.parentOf`, `LintPool.Path.aboveOf` — going up, on components.

## Main results

* `LintPool.Path.components_join` — the components of a path that leads down.
* `LintPool.Path.map_components_parent?` — the components one up.
* `LintPool.Path.map_components_ancestors` — the components of everything above.
* `LintPool.Path.Same.join`, `LintPool.Path.Same.ancestors`, `LintPool.Path.Same.sibling` — paths
  that are the same lead to the same.
-/

namespace LintPool

namespace Path

/-! ## Pieces -/

/-- There is always a piece. -/
lemma pieces_ne_nil (cs : List Char) : pieces cs ≠ [] := by
  cases cs with
  | nil => simp [pieces]
  | cons c cs =>
    rw [pieces]
    split
    · simp
    · split <;> simp

/-- A character in front of a text that does not start with a slash stands in its first piece. -/
lemma pieces_cons_of_ne {c : Char} (cs : List Char) (h : c ≠ '/') :
    ∃ p ps, pieces cs = p :: ps ∧ pieces (c :: cs) = (c :: p) :: ps := by
  obtain ⟨p, ps, hcs⟩ := List.exists_cons_of_ne_nil (pieces_ne_nil cs)
  exact ⟨p, ps, hcs, by simp [pieces, h, hcs]⟩

/-- The pieces of two texts with a slash between them. -/
lemma pieces_append_slash (a b : List Char) :
    pieces (a ++ '/' :: b) = pieces a ++ pieces b := by
  induction a with
  | nil => simp [pieces]
  | cons c a ih =>
    by_cases h : c = '/'
    · simp [pieces, h, ih]
    · obtain ⟨p, ps, ha, hca⟩ := pieces_cons_of_ne a h
      simp [pieces, h, ih, ha]

/-- No piece holds a slash. -/
lemma slash_notMem_of_mem_pieces {cs p : List Char} (h : p ∈ pieces cs) : '/' ∉ p := by
  induction cs generalizing p with
  | nil => simp_all [pieces]
  | cons c cs ih =>
    by_cases hc : c = '/'
    · rw [pieces, if_pos hc] at h
      rcases List.mem_cons.1 h with rfl | h
      · simp
      · exact ih h
    · obtain ⟨q, qs, hcs, hcons⟩ := pieces_cons_of_ne cs hc
      rw [hcons] at h
      rw [hcs] at ih
      rcases List.mem_cons.1 h with rfl | h
      · simp [ih List.mem_cons_self, Ne.symm hc]
      · exact ih (List.mem_cons_of_mem _ h)

/-- A text without slashes is one piece. -/
lemma pieces_eq_singleton {p : List Char} (h : '/' ∉ p) : pieces p = [p] := by
  induction p with
  | nil => rfl
  | cons c p ih =>
    rw [List.mem_cons, not_or] at h
    simp [pieces, Ne.symm h.1, ih h.2]

/-- Splitting at the slashes takes joined pieces apart again. -/
lemma pieces_unpieces {ps : List (List Char)} (hne : ps ≠ []) (h : ∀ p ∈ ps, '/' ∉ p) :
    pieces (unpieces ps) = ps := by
  induction ps with
  | nil => exact absurd rfl hne
  | cons p ps ih =>
    rw [List.forall_mem_cons] at h
    cases ps with
    | nil => exact pieces_eq_singleton h.1
    | cons q qs =>
      have hrest := ih (List.cons_ne_nil q qs) h.2
      rw [unpieces, pieces_append_slash, pieces_eq_singleton h.1, hrest, List.singleton_append]
      simp

/-- The first piece of a text is empty if the text starts with a slash or is empty. -/
lemma head?_pieces (cs : List Char) :
    (pieces cs).head? = some [] ↔ cs.head? = some '/' ∨ cs = [] := by
  cases cs with
  | nil => simp [pieces]
  | cons c cs =>
    by_cases hc : c = '/'
    · simp [pieces, hc]
    · obtain ⟨p, ps, -, hcons⟩ := pieces_cons_of_ne cs hc
      simp [hcons, hc]

/-- There is at most one piece more than there are characters. -/
lemma length_pieces_le (cs : List Char) : (pieces cs).length ≤ cs.length + 1 := by
  induction cs with
  | nil => simp [pieces]
  | cons c cs ih =>
    by_cases hc : c = '/'
    · simpa [pieces, hc] using ih
    · obtain ⟨p, ps, hcs, hcons⟩ := pieces_cons_of_ne cs hc
      rw [hcs] at ih
      rw [hcons]
      simp at ih ⊢
      omega

/-! ## Components, from the end -/

/-- The component that a piece stands for, if it counts. -/
def componentOf (piece : List Char) : Component :=
  if piece = ['.'] then .here else .name piece

/-- The components of a path whose pieces are given backwards. -/
def componentsBackwards (absolute : Bool) : List (List Char) → List Component
  | [] => if absolute then [.root] else []
  | p :: before =>
    componentsBackwards absolute before ++
      if counts absolute before p then [componentOf p] else []

/-- A name is a component by itself. -/
lemma componentOf_of_isName {p : List Char} (h : isName p = true) : componentOf p = .name p := by
  unfold componentOf isName at *
  split <;> simp_all

/-- Pieces that come after others are components if they are names. -/
lemma componentsBackwards_append (absolute : Bool) (ps before : List (List Char))
    (hbefore : before ≠ []) :
    componentsBackwards absolute (ps.reverse ++ before) =
      componentsBackwards absolute before ++ names ps := by
  induction ps generalizing before with
  | nil => simp [names]
  | cons p ps ih =>
    rw [List.reverse_cons, List.append_assoc, List.singleton_append, ih _ (List.cons_ne_nil _ _),
      componentsBackwards]
    have hcounts : counts absolute before p = isName p := by simp [counts, hbefore]
    rw [hcounts]
    by_cases hp : isName p = true
    · simp [names, hp, componentOf_of_isName hp]
    · simp [names, hp]

/-- The components of a path are those of its pieces, given backwards. -/
lemma components_eq_backwards (p : Path) :
    p.components = componentsBackwards p.isAbsolute (pieces p.chars).reverse := by
  obtain ⟨first, rest, hps⟩ := List.exists_cons_of_ne_nil (pieces_ne_nil p.chars)
  rw [components, hps, List.reverse_cons, componentsBackwards_append _ _ _ (List.cons_ne_nil _ _)]
  by_cases habs : p.isAbsolute = true
  · have hfirst : first = [] := by
      have := (head?_pieces p.chars).2 (.inl (by simpa [isAbsolute] using habs))
      simpa [hps] using this
    simp [habs, hfirst, componentsBackwards, counts, isName]
  · by_cases hdot : first = ['.']
    · simp [hdot, componentsBackwards, counts, habs, componentOf]
    · by_cases hname : isName first = true
      · simp [hdot, hname, componentsBackwards, counts, habs, names, componentOf]
      · simp [hdot, hname, componentsBackwards, counts, habs, names]


/-! ## Going down -/

/-- Only the empty text has no components. -/
lemma components_eq_nil_iff {p : Path} : p.components = [] ↔ p.chars = [] := by
  constructor
  · intro h
    by_contra hne
    obtain ⟨c, cs, hp⟩ := List.exists_cons_of_ne_nil hne
    by_cases hc : c = '/'
    · simp [components, isAbsolute, hp, hc, pieces] at h
    · obtain ⟨q, qs, -, hcons⟩ := pieces_cons_of_ne cs hc
      rw [components, hp, hcons] at h
      by_cases hdot : c :: q = ['.'] <;>
        simp [isAbsolute, hp, hc, hdot, names, isName] at h
  · intro h
    simp [components, isAbsolute, h, pieces, names, isName]

/-- A path is absolute if its first component is the root. -/
lemma isAbsolute_iff {p : Path} : p.isAbsolute = true ↔ p.components.head? = some .root := by
  constructor
  · intro h
    obtain ⟨first, rest, hps⟩ := List.exists_cons_of_ne_nil (pieces_ne_nil p.chars)
    simp [components, hps, h]
  · intro h
    by_contra habs
    obtain ⟨first, rest, hps⟩ := List.exists_cons_of_ne_nil (pieces_ne_nil p.chars)
    by_cases hdot : first = ['.']
    · simp [components, hps, habs, hdot] at h
    · simp only [components, hps, habs, hdot, names, if_false] at h
      have hroot : Component.root ∈ ((first :: rest).filter isName).map Component.name :=
        List.mem_of_head? h
      simp at hroot

/-- The characters of a path that leads down from one that is not empty. -/
lemma chars_join {p q : Path} (hq : q.isAbsolute = false) (hp : p.chars ≠ []) :
    ∃ a, (p.chars = a ∨ p.chars = a ++ ['/']) ∧ (p.join q).chars = a ++ '/' :: q.chars := by
  by_cases hlast : p.chars.getLast? = some '/'
  · obtain ⟨a, ha⟩ := List.getLast?_eq_some_iff.1 hlast
    have hjoin : p.join q = ⟨p.text ++ q.text⟩ := by simp [join, hq, hlast]
    have htext : p.text.toList = a ++ ['/'] := ha
    exact ⟨a, .inr ha, by simp [hjoin, chars, htext]⟩
  · have hjoin : p.join q = ⟨p.text ++ "/" ++ q.text⟩ := by simp [join, hq, hlast, hp]
    exact ⟨p.chars, .inl rfl, by simp [hjoin, chars]⟩

/-- **Going down**: an absolute path replaces the one it is joined to, the empty path adds nothing
in front, and otherwise the names of the second path come after the components of the first. -/
lemma components_join (p q : Path) :
    (p.join q).components =
      if q.isAbsolute ∨ p.components = [] then q.components
      else p.components ++ names (pieces q.chars) := by
  by_cases hq : q.isAbsolute = true
  · simp [join, hq]
  rw [Bool.not_eq_true] at hq
  by_cases hp : p.chars = []
  · have hempty : p.text = "" := by simpa [chars] using hp
    simp [join, hq, hp, components_eq_nil_iff.2 hp, hempty]
  · obtain ⟨a, ha, hjoin⟩ := chars_join hq hp
    have habs : (p.join q).isAbsolute = p.isAbsolute := by
      rcases ha with ha | ha <;> cases a <;> simp_all [isAbsolute]
    have hrev : (pieces a).reverse ≠ [] := by simpa using pieces_ne_nil a
    have hpc : p.components = componentsBackwards p.isAbsolute (pieces a).reverse := by
      rw [components_eq_backwards]
      rcases ha with ha | ha
      · rw [ha]
      · rw [ha, pieces_append_slash, List.reverse_append, componentsBackwards_append _ _ _ hrev]
        simp [names, pieces, isName]
    rw [components_eq_backwards, habs, hjoin, pieces_append_slash, List.reverse_append,
      componentsBackwards_append _ _ _ hrev, hpc]
    have hne : componentsBackwards p.isAbsolute (pieces a).reverse ≠ [] := by
      rw [← hpc]
      exact fun h => hp (components_eq_nil_iff.1 h)
    simp [hq, hne]

/-- The names of a relative path are its components but for a leading dot. -/
lemma names_pieces {q : Path} (h : q.isAbsolute = false) :
    names (pieces q.chars) = q.components.filter (· ≠ .here) := by
  have hnames (ps : List (List Char)) : (names ps).filter (· ≠ .here) = names ps := by
    rw [names, List.filter_map, List.filter_eq_self.2 (by simp)]
  obtain ⟨first, rest, hps⟩ := List.exists_cons_of_ne_nil (pieces_ne_nil q.chars)
  unfold components
  rw [hps]
  by_cases hdot : first = ['.']
  · rw [h, hdot]
    simpa [names, isName] using (hnames rest).symm
  · simpa [h, hdot] using (hnames (first :: rest)).symm

/-- Whether a path is absolute is a matter of components. -/
lemma Same.isAbsolute {p p' : Path} (h : p.Same p') : p.isAbsolute = p'.isAbsolute := by
  rw [Bool.eq_iff_iff, isAbsolute_iff, isAbsolute_iff, h]

/-- Paths that are the same, joined to paths that are the same. -/
lemma Same.join {p p' q q' : Path} (hp : p.Same p') (hq : q.Same q') :
    (p.join q).Same (p'.join q') := by
  unfold Same
  rw [components_join, components_join, ← hq.isAbsolute, hp]
  by_cases habs : q.isAbsolute = true
  · rw [if_pos (.inl habs), if_pos (.inl habs)]
    exact hq
  · rw [Bool.not_eq_true] at habs
    rw [names_pieces habs, names_pieces (hq.isAbsolute ▸ habs), hq]

/-! ## Going up -/

/-- The components one up: the root and nothing have none. -/
def parentOf (cs : List Component) : Option (List Component) :=
  if cs = [] ∨ cs = [.root] then none else some cs.dropLast

/-- Where the pieces that do not count have been dropped, the components are the same. -/
lemma componentsBackwards_dropTrailing (absolute : Bool) (ps : List (List Char)) :
    componentsBackwards absolute (dropTrailing absolute ps) = componentsBackwards absolute ps := by
  induction ps with
  | nil => rfl
  | cons p before ih =>
    rw [dropTrailing]
    split
    · rfl
    · rename_i h
      rw [ih, componentsBackwards, if_neg h, List.append_nil]

/-- The last piece that is kept counts. -/
lemma counts_of_dropTrailing {absolute : Bool} {ps before : List (List Char)} {p : List Char}
    (h : dropTrailing absolute ps = p :: before) : counts absolute before p = true := by
  induction ps with
  | nil => cases h
  | cons q rest ih =>
    rw [dropTrailing] at h
    split at h
    · cases h
      assumption
    · exact ih h

/-- What is kept is what stood before. -/
lemma dropTrailing_suffix (absolute : Bool) (ps : List (List Char)) :
    dropTrailing absolute ps <:+ ps := by
  induction ps with
  | nil => exact List.suffix_rfl
  | cons p before ih =>
    rw [dropTrailing]
    split
    · exact List.suffix_rfl
    · exact ih.trans (List.suffix_cons p before)

/-- The components before a piece that counts, and its own, are not just the root. -/
lemma parentOf_concat {absolute : Bool} {before : List (List Char)} {p : List Char} :
    parentOf (componentsBackwards absolute before ++ [componentOf p]) =
      some (componentsBackwards absolute before) := by
  have hne : componentOf p ≠ .root := by
    unfold componentOf
    split <;> simp
  rw [parentOf, if_neg, List.dropLast_concat]
  rintro (h | h)
  · simp at h
  · exact hne (by simpa using congrArg List.getLast? h)

/-- The pieces from one that counts up to the front are those of a path, which starts at the root if
the whole path does. -/
lemma components_ofList_unpieces {cs p : List Char} {rest : List (List Char)}
    (hkept : (p :: rest) <:+ (pieces cs).reverse)
    (hcounts : counts (decide (cs.head? = some '/')) rest p = true) :
    components ⟨String.ofList (unpieces (p :: rest).reverse)⟩ =
      componentsBackwards (decide (cs.head? = some '/')) (p :: rest) := by
  have hpre : (p :: rest).reverse <+: pieces cs := by
    simpa using List.reverse_prefix.2 hkept
  have hpieces : pieces (unpieces (p :: rest).reverse) = (p :: rest).reverse :=
    pieces_unpieces (by simp) fun q hq => slash_notMem_of_mem_pieces (hpre.subset hq)
  have hsingle : (p :: rest).reverse ≠ [[]] := fun h => by
    obtain ⟨rfl, rfl⟩ : p = [] ∧ rest = [] := by simpa using congrArg List.reverse h
    simp [counts, isName] at hcounts
  have hne : unpieces (p :: rest).reverse ≠ [] := fun h => hsingle (by rw [← hpieces, h]; rfl)
  have hcs : cs ≠ [] := fun h => by
    rw [h] at hpre
    exact hsingle (hpre.eq_of_length_le (by simp [pieces]))
  have hhead : (pieces cs).head? = (p :: rest).reverse.head? := by
    obtain ⟨t, ht⟩ := hpre
    rw [← ht, List.head?_append_of_ne_nil _ (by simp)]
  have habs : (unpieces (p :: rest).reverse).head? = some '/' ↔ cs.head? = some '/' :=
    calc
      _ ↔ (pieces (unpieces (p :: rest).reverse)).head? = some [] := by
        rw [head?_pieces, or_iff_left hne]
      _ ↔ (pieces cs).head? = some [] := by rw [hpieces, hhead]
      _ ↔ cs.head? = some '/' := by rw [head?_pieces, or_iff_left hcs]
  rw [components_eq_backwards]
  simp only [isAbsolute, chars, String.toList_ofList, habs, hpieces, List.reverse_reverse]

/-- **Going up** leaves out the last component. -/
lemma map_components_parent? (p : Path) :
    p.parent?.map components = parentOf p.components := by
  have hp := components_eq_backwards p
  rw [← componentsBackwards_dropTrailing] at hp
  rcases hlast : dropTrailing p.isAbsolute (pieces p.chars).reverse with _ | ⟨last, before⟩
  · have hup : p.parent? = none := by simp only [parent?, hlast]
    rw [hup, hp, hlast]
    cases p.isAbsolute <;> rfl
  · rw [hlast, componentsBackwards, if_pos (counts_of_dropTrailing hlast),
      ← componentsBackwards_dropTrailing] at hp
    rw [hp, parentOf_concat]
    rcases hkept : dropTrailing p.isAbsolute before with _ | ⟨q, rest⟩
    · have hup : p.parent? = some ⟨if p.isAbsolute then "/" else ""⟩ := by
        simp only [parent?, hlast, hkept]
      rw [hup]
      cases p.isAbsolute <;> rfl
    · have hup : p.parent? = some ⟨String.ofList (unpieces (q :: rest).reverse)⟩ := by
        simp only [parent?, hlast, hkept]
      have hsuffix : (q :: rest) <:+ (pieces p.chars).reverse := by
        have hbefore : before <:+ (pieces p.chars).reverse :=
          (List.suffix_cons last before).trans (hlast ▸ dropTrailing_suffix _ _)
        exact (hkept ▸ dropTrailing_suffix _ _ : (q :: rest) <:+ before).trans hbefore
      rw [hup, Option.map_some,
        components_ofList_unpieces hsuffix (counts_of_dropTrailing hkept)]
      rfl


/-! ## Everything above -/

/-- The components of everything above, nearest first, at most so many of them. -/
def aboveOf (cs : List Component) : Nat → List (List Component)
  | 0 => []
  | fuel + 1 =>
    match parentOf cs with
    | none => []
    | some up => up :: aboveOf up fuel

/-- The components of the folders above a path are cut from its own. -/
lemma map_components_above (p : Path) (fuel : Nat) :
    (p.above fuel).map components = aboveOf p.components fuel := by
  induction fuel generalizing p with
  | zero => rfl
  | succ fuel ih =>
    rw [above, aboveOf, ← map_components_parent?]
    cases p.parent? with
    | none => rfl
    | some q => rw [List.map_cons, ih, Option.map_some]

/-- Going up makes the components fewer. -/
lemma length_of_parentOf {cs up : List Component} (h : parentOf cs = some up) :
    up.length < cs.length := by
  unfold parentOf at h
  split at h
  · cases h
  · rename_i hne
    cases h
    rw [not_or] at hne
    have := List.length_pos_iff.2 hne.1
    simp
    omega

/-- With as much fuel as there are components, more makes no difference. -/
lemma aboveOf_eq {cs : List Component} {m n : Nat} (hm : cs.length ≤ m) (hn : cs.length ≤ n) :
    aboveOf cs m = aboveOf cs n := by
  induction m generalizing cs n with
  | zero =>
    obtain rfl : cs = [] := List.length_eq_zero_iff.1 (by omega)
    cases n <;> simp [aboveOf, parentOf]
  | succ m ih =>
    cases n with
    | zero =>
      obtain rfl : cs = [] := List.length_eq_zero_iff.1 (by omega)
      simp [aboveOf, parentOf]
    | succ n =>
      rw [aboveOf, aboveOf]
      rcases hup : parentOf cs with _ | up
      · rfl
      · have hlt := length_of_parentOf hup
        exact congrArg (up :: ·) (ih (by omega) (by omega))

/-- There are no more components than pieces. -/
lemma length_components_le (p : Path) : p.components.length ≤ p.chars.length + 1 := by
  have hlen := length_pieces_le p.chars
  have hnames (ps : List (List Char)) : (names ps).length ≤ ps.length := by
    rw [names, List.length_map]
    exact List.length_filter_le _ _
  unfold components
  obtain ⟨first, rest, hps⟩ := List.exists_cons_of_ne_nil (pieces_ne_nil p.chars)
  rw [hps] at hlen ⊢
  have h₁ := hnames rest
  have h₂ := hnames (first :: rest)
  dsimp only
  split
  · simp at hlen ⊢
    omega
  · split <;> simp at hlen h₂ ⊢ <;> omega

/-- The components of a path and of everything above it. -/
lemma map_components_ancestors (p : Path) :
    p.ancestors.map components = p.components :: aboveOf p.components p.components.length := by
  rw [ancestors, List.map_cons, map_components_above,
    aboveOf_eq (length_components_le p) (Nat.le_refl _)]

/-- Paths that are the same, one by one. -/
lemma forall₂_same_iff {ps qs : List Path} :
    List.Forall₂ Same ps qs ↔ ps.map components = qs.map components := by
  rw [← List.forall₂_eq_eq_eq, List.forall₂_map_left_iff, List.forall₂_map_right_iff]
  rfl

/-- Paths that are the same have the same paths above them. -/
lemma Same.ancestors {p p' : Path} (h : p.Same p') :
    List.Forall₂ Same p.ancestors p'.ancestors := by
  rw [forall₂_same_iff, map_components_ancestors, map_components_ancestors, h]

/-- What is above a path is above any other spelling of it. -/
lemma Same.exists_mem_ancestors {p p' q' : Path} (h : p.Same p') (hq : q' ∈ p'.ancestors) :
    ∃ q ∈ p.ancestors, q.Same q' := by
  have hmem : q'.components ∈ p'.ancestors.map components := List.mem_map_of_mem hq
  rw [← forall₂_same_iff.1 h.ancestors] at hmem
  exact List.mem_map.1 hmem

/-- The parents of paths that are the same are the same. -/
lemma Same.map_parent? {p p' : Path} (h : p.Same p') :
    p.parent?.map components = p'.parent?.map components := by
  rw [map_components_parent?, map_components_parent?, h]

/-- The same name beside paths that are the same. -/
lemma Same.sibling {p p' : Path} (h : p.Same p') (name : String) :
    (p.sibling name).Same (p'.sibling name) := by
  have hup := h.map_parent?
  unfold Path.sibling
  rcases hp : p.parent? with _ | q <;> rcases hp' : p'.parent? with _ | q' <;>
    rw [hp, hp'] at hup
  · exact h.join rfl
  · cases hup
  · cases hup
  · exact Same.join (Option.some.inj hup) rfl

/-- Lying within a folder is a matter of components. -/
lemma Same.within {p p' q q' : Path} (hp : p.Same p') (hq : q.Same q') :
    p.within q = p'.within q' := by
  unfold Path.within
  rw [hp, hq]

/-- What paths that are the same name inside folders that are the same. -/
lemma Same.seenFrom {p p' folder folder' : Path} (hp : p.Same p') (hf : folder.Same folder') :
    (p.seenFrom folder).Same (p'.seenFrom folder') := by
  unfold Path.seenFrom
  rw [hp.isAbsolute]
  split
  · exact hp
  · exact hf.join hp

end Path

end LintPool
