import LintPool.Proofs.FileTree.Walks

set_option autoImplicit false

/-!
# Ways that go up and down

A path that continues another one may go up again through `..`, also above the point where the other
one ends. What such a way comes to depends only on how far it goes up and on what it goes down to
from there.

## Main definitions

* `LintPool.Path.Climb`, `LintPool.Path.climb` — how far a way goes up, and down to what.
* `LintPool.Path.Straight` — a way never goes up.

## Main results

* `LintPool.Path.prefix_foldl_from_iff` — when a way that starts at an address ends at or below it.
* `LintPool.Path.components_join_name` — a name that is joined to a path is one more component.
* `LintPool.Path.components_ofComponents` — a path made of the components of another one.
* `LintPool.Path.components_prefix_of_mem_ancestors` — above a path are the beginnings of it.
* `LintPool.Path.prefix_of_ancestors_eq` — what comes after a path on the way up is a beginning of
  it.
-/

namespace LintPool

namespace Path

/-! ## Going up and down -/

/-- How far a way goes up, and what it goes down to from there. -/
structure Climb where
  /-- The number of names that it goes up. -/
  ups : Nat
  /-- The names that it goes down. -/
  downs : Address
  deriving Repr, DecidableEq

/-- One more component. -/
def Climb.step (k : Climb) : Component → Climb
  | .name n =>
    if n = ['.', '.'] then
      if k.downs = [] then { k with ups := k.ups + 1 } else { k with downs := k.downs.dropLast }
    else { k with downs := k.downs ++ [n] }
  | _ => k

/-- How far a way goes up, and what it goes down to from there. -/
def climb (way : List Component) : Climb :=
  way.foldl Climb.step ⟨0, []⟩

/-- Where a way leads from an address, if it goes up and down like this. -/
def Climb.apply (k : Climb) (here : Address) : Address :=
  here.take (here.length - k.ups) ++ k.downs

/-- One more component is climbed from where the others lead. -/
lemma Climb.apply_step (k : Climb) (here : Address) (c : Component) :
    (k.step c).apply here = c.from (k.apply here) := by
  cases c with
  | root => rfl
  | here => rfl
  | name n =>
    unfold Climb.step Component.from Climb.apply
    dsimp only
    split
    · split
      · rename_i hnone
        have hlen : (here.take (here.length - k.ups)).length = here.length - k.ups := by simp
        rw [hnone, List.append_nil, List.append_nil, List.dropLast_eq_take, hlen, List.take_take,
          Nat.min_eq_left (Nat.sub_le _ _), Nat.sub_sub]
      · rename_i hsome
        rw [List.dropLast_append_of_ne_nil hsome]
    · rw [List.append_assoc]

/-- A way leads up and then down. -/
lemma foldl_from_eq (way : List Component) (here : Address) :
    way.foldl Component.from here = (climb way).apply here := by
  have hgeneral : ∀ k : Climb,
      way.foldl Component.from (k.apply here) = (way.foldl Climb.step k).apply here := by
    induction way with
    | nil => intro k; rfl
    | cons c way ih =>
      intro k
      rw [List.foldl_cons, List.foldl_cons, ← ih, Climb.apply_step]
  have hstart : Climb.apply ⟨0, []⟩ here = here := by simp [Climb.apply]
  rw [← hstart, hgeneral, hstart, climb]

/-- **A way that starts at an address ends at or below it** just if it goes down again what it has
gone up. -/
lemma prefix_foldl_from_iff (way : List Component) (here : Address) :
    here <+: way.foldl Component.from here ↔
      here.drop (here.length - (climb way).ups) <+: (climb way).downs := by
  rw [foldl_from_eq, Climb.apply]
  conv_lhs => lhs; rw [← List.take_append_drop (here.length - (climb way).ups) here]
  exact List.prefix_append_right_inj _

/-- A way never goes up. -/
def Straight (way : List Component) : Prop :=
  .name ['.', '.'] ∉ way

/-- A part of a straight way is straight. -/
lemma Straight.sublist {way way' : List Component} (h : Straight way) (hsub : way'.Sublist way) :
    Straight way' := fun hmem => h (hsub.subset hmem)

/-- A way that never goes up ends at or below the address that it starts at. -/
lemma Straight.prefix_foldl_from {way : List Component} (h : Straight way) (here : Address) :
    here <+: way.foldl Component.from here := by
  induction way generalizing here with
  | nil => exact List.prefix_rfl
  | cons c way ih =>
    obtain ⟨hc, hway⟩ := not_or.1 (mt List.mem_cons.2 h)
    refine List.IsPrefix.trans ?_ (ih hway (c.from here))
    cases c with
    | root => exact List.prefix_rfl
    | here => exact List.prefix_rfl
    | name n =>
      have hn : n ≠ ['.', '.'] := fun heq => hc (heq ▸ rfl)
      rw [Component.from, if_neg hn]
      exact List.prefix_append here [n]

/-! ## Beginnings of paths -/

/-- The components above a path are beginnings of its own. -/
lemma prefix_of_mem_aboveOf {cs up : List Component} {fuel : Nat} (h : up ∈ aboveOf cs fuel) :
    up <+: cs := by
  induction fuel generalizing cs with
  | zero => cases h
  | succ fuel ih =>
    rw [aboveOf] at h
    cases hparent : parentOf cs with
    | none =>
      rw [hparent] at h
      cases h
    | some next =>
      have hnext : next <+: cs := by
        unfold parentOf at hparent
        split at hparent
        · cases hparent
        · cases hparent
          exact List.dropLast_prefix cs
      rw [hparent] at h
      rcases List.mem_cons.1 h with rfl | h
      · exact hnext
      · exact (ih h).trans hnext

/-- Above a path are the beginnings of it. -/
lemma components_prefix_of_mem_ancestors {p q : Path} (h : q ∈ p.ancestors) :
    q.components <+: p.components := by
  have hmem : q.components ∈ p.ancestors.map components := List.mem_map_of_mem h
  rw [map_components_ancestors] at hmem
  rcases List.mem_cons.1 hmem with heq | hmem
  · exact heq ▸ List.prefix_rfl
  · exact prefix_of_mem_aboveOf hmem

/-- Of the components above a path, those that are further up are beginnings of the others. -/
lemma pairwise_aboveOf (cs : List Component) (fuel : Nat) :
    (cs :: aboveOf cs fuel).Pairwise fun a b => b <+: a := by
  induction fuel generalizing cs with
  | zero => exact List.pairwise_singleton _ cs
  | succ fuel ih =>
    refine List.pairwise_cons.2 ⟨fun up hup => prefix_of_mem_aboveOf hup, ?_⟩
    rw [aboveOf]
    cases parentOf cs with
    | none => exact List.Pairwise.nil
    | some up => exact ih up

/-- What comes after a path on the way up is a beginning of it. -/
lemma prefix_of_ancestors_eq {p folder above : Path} {before after : List Path}
    (h : p.ancestors = before ++ folder :: after) (habove : above ∈ folder :: after) :
    above.components <+: folder.components := by
  have hpairwise := pairwise_aboveOf p.components p.components.length
  rw [← map_components_ancestors, List.pairwise_map, h] at hpairwise
  rcases List.mem_cons.1 habove with rfl | habove
  · exact List.prefix_rfl
  · exact (List.pairwise_cons.1 (List.pairwise_append.1 hpairwise).2.1).1 above habove

/-- A text is a name, and the only one in itself. -/
def IsSingleName (n : List Char) : Prop :=
  isName n = true ∧ '/' ∉ n

/-- The components that come after the first one are names. -/
lemma exists_components_eq (p : Path) : p.components = [] ∨
    ∃ (first : Component) (rest : List (List Char)), p.components = first :: rest.map .name ∧
      (∀ n, first = .name n → IsSingleName n) ∧ ∀ n ∈ rest, IsSingleName n := by
  have hsingle : ∀ n ∈ (pieces p.chars).filter isName, IsSingleName n := by
    intro n hn
    obtain ⟨hpiece, hname⟩ := List.mem_filter.1 hn
    exact ⟨hname, slash_notMem_of_mem_pieces hpiece⟩
  obtain ⟨piece, more, hpieces⟩ := List.exists_cons_of_ne_nil (pieces_ne_nil p.chars)
  have hmore : ∀ n ∈ more.filter isName, IsSingleName n := by
    intro n hn
    refine hsingle n ?_
    rw [hpieces]
    exact ((List.sublist_cons_self piece more).filter isName).subset hn
  unfold components
  rw [hpieces] at hsingle ⊢
  dsimp only
  split
  · exact .inr ⟨.root, more.filter isName, rfl, fun n hn => (by cases hn), hmore⟩
  · split
    · exact .inr ⟨.here, more.filter isName, rfl, fun n hn => (by cases hn), hmore⟩
    · unfold names
      cases hall : (piece :: more).filter isName with
      | nil => exact .inl rfl
      | cons n rest =>
        rw [hall, List.forall_mem_cons] at hsingle
        refine .inr ⟨.name n, rest, rfl, fun m hm => ?_, hsingle.2⟩
        cases hm
        exact hsingle.1

/-- A name that is read as a path is one component. -/
lemma components_of_isSingleName {name : String} (h : IsSingleName name.toList) :
    (⟨name⟩ : Path).isAbsolute = false ∧
      names (pieces (⟨name⟩ : Path).chars) = [.name name.toList] ∧
      (⟨name⟩ : Path).components = [.name name.toList] := by
  have habs : (⟨name⟩ : Path).isAbsolute = false := by
    rw [isAbsolute, decide_eq_false_iff_not]
    exact fun hhead => h.2 (List.mem_of_head? hhead)
  have hpieces : pieces (⟨name⟩ : Path).chars = [name.toList] := pieces_eq_singleton h.2
  have hnames : names (pieces (⟨name⟩ : Path).chars) = [.name name.toList] := by
    rw [hpieces, names, List.filter_cons_of_pos h.1]
    rfl
  have hdot : name.toList ≠ ['.'] := fun hdot => absurd (hdot ▸ h.1) (by decide)
  refine ⟨habs, hnames, ?_⟩
  rw [components, habs, hpieces]
  simp [hdot, names, List.filter_cons_of_pos h.1]

/-- A name that is joined to a path is one more component. -/
lemma components_join_name (p : Path) {name : String} (h : IsSingleName name.toList) :
    (p.join ⟨name⟩).components = p.components ++ [.name name.toList] := by
  obtain ⟨habs, hnames, hone⟩ := components_of_isSingleName h
  rw [components_join]
  by_cases hnil : p.components = []
  · rw [if_pos (.inr hnil), hone, hnil]
    rfl
  · rw [if_neg (by simp [habs, hnil]), hnames]

/-- Names that are joined to a path one by one are further components. -/
lemma components_foldl_join (p : Path) {ns : List (List Char)} (h : ∀ n ∈ ns, IsSingleName n) :
    ((ns.map Component.name).foldl (fun q c => q.join ⟨c.text⟩) p).components =
      p.components ++ ns.map .name := by
  induction ns generalizing p with
  | nil => simp
  | cons n ns ih =>
    rw [List.forall_mem_cons] at h
    have htext : (Component.name n).text.toList = n := String.toList_ofList
    have hjoin := components_join_name p (htext.symm ▸ h.1)
    rw [htext] at hjoin
    rw [List.map_cons, List.foldl_cons, ih _ h.2, hjoin, List.append_assoc]
    rfl

/-- **A path made of the first components of another one** has these components. -/
lemma components_ofComponents {p : Path} {cs : List Component} (h : cs <+: p.components) :
    (ofComponents cs).components = cs := by
  rcases exists_components_eq p with hnil | ⟨first, rest, heq, hfirst, hrest⟩
  · rw [hnil, List.prefix_nil] at h
    rw [h]
    decide
  · rw [heq] at h
    cases cs with
    | nil => decide
    | cons c cs =>
      obtain ⟨rfl, htail⟩ := List.cons_prefix_cons.1 h
      obtain ⟨ns, hns, rfl⟩ : ∃ ns, ns <+: rest ∧ cs = ns.map .name := by
        refine ⟨rest.take cs.length, List.take_prefix _ _, ?_⟩
        rw [List.map_take]
        exact List.prefix_iff_eq_take.1 htail
      have hall : ∀ n ∈ ns, IsSingleName n := fun n hn => hrest n (hns.subset hn)
      have hstart : ((⟨""⟩ : Path).join ⟨c.text⟩).components = [c] := by
        cases c with
        | root => decide
        | here => decide
        | name n =>
          have hone : ∀ m ∈ [n], IsSingleName m := List.forall_mem_singleton.2 (hfirst n rfl)
          have hempty : (⟨""⟩ : Path).components = [] := by decide
          have hjoin := components_foldl_join ⟨""⟩ hone
          rw [hempty] at hjoin
          exact hjoin
      rw [ofComponents, List.foldl_cons, components_foldl_join _ hall, hstart]
      rfl

end Path

end LintPool
