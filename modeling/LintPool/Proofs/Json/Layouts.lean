import Mathlib.Data.List.Nodup
import LintPool.Json.Schema
import LintPool.Proofs.Json.Orderly

set_option autoImplicit false

/-!
# Records that are read

The fields of an object are decoded in the order of their keys. That order decides which of two
faults is reported, but not whether there is one, and not the record: where every field has a place
of its own, the fields may as well be decoded in the order of declaration, which is the order of an
array.

## Main definitions

* `LintPool.Json.Field.Commutes` — two fields may be decoded in either order.
* `LintPool.Json.Schema.Lawful` — so may all fields of a record, whose names are all different.
* `LintPool.Json.Schema.taken` — the values of an object, in the order of declaration.

## Main results

* `LintPool.Json.Schema.readObject_eq_ok_iff` — an object is read as the record that its values make
  in the order of declaration.
* `LintPool.Json.Schema.putItems_eq_ok_iff` — and so is an array that has a value for each field.
-/

namespace LintPool.Json

variable {ρ : Type}

/-! ## Values of fields -/

/-- Only a text is read as a text. -/
lemma asText_eq_ok_iff {expected : Expected} {j : Json} {s : String} :
    asText expected j = .ok s ↔ j = .str s := by
  cases j <;> simp [asText]

/-- Only an integer that fits a signed word is read as an integer. -/
lemma asInteger_eq_ok_iff {j : Json} {i : Int} :
    asInteger j = .ok i ↔ j = .int i ∧ i < 2 ^ 63 := by
  have hpow : Nat.pow 2 63 = 2 ^ 63 := rfl
  cases j with
  | int i' =>
    simp only [asInteger, hpow]
    split <;> simp <;> omega
  | _ => simp [asInteger]

/-- Null is written for no text, and for nothing else. -/
@[simp] lemma null_eq_ofText?_iff {s : Option String} : Json.null = ofText? s ↔ none = s := by
  cases s <;> simp [ofText?]

/-- A text or nothing is read from what it is written as. -/
lemma optional_asText_eq_ok_iff {expected : Expected} {j : Json} {s : Option String} :
    optional (asText expected) j = .ok s ↔ j = ofText? s := by
  cases j <;> cases s <;> simp [optional, asText, Except.map, ofText?]

/-! ## Fields of records -/

/-- A field that is built from its parts has the name that is given. -/
@[simp] lemma Field.name_of {α : Type} (name : String) (required : Bool)
    (decode : Json → Decoded α) (encode : α → Json) (get : ρ → α) (set : α → ρ → ρ) :
    (Field.of name required decode encode get set).name = name := rfl

/-- It is required if that is given. -/
@[simp] lemma Field.required_of {α : Type} (name : String) (required : Bool)
    (decode : Json → Decoded α) (encode : α → Json) (get : ρ → α) (set : α → ρ → ρ) :
    (Field.of name required decode encode get set).required = required := rfl

/-- What a field takes is what it decodes. -/
lemma Field.put_of_eq_ok_iff {α : Type} {name : String} {required : Bool}
    {decode : Json → Decoded α} {encode : α → Json} {get : ρ → α} {set : α → ρ → ρ} {j : Json}
    {r r' : ρ} : (Field.of name required decode encode get set).put j r = .ok r' ↔
      ∃ a, decode j = .ok a ∧ set a r = r' := by
  cases h : decode j <;> simp [Field.of, h, Except.map]

/-- Two fields of a record may be decoded in either order. -/
def Field.Commutes (f g : Field ρ) : Prop :=
  ∀ j k r r', (f.put j r).bind (g.put k) = .ok r' ↔ (g.put k r).bind (f.put j) = .ok r'

/-- If a field commutes with another, that one commutes with it. -/
lemma Field.Commutes.symm {f g : Field ρ} (h : f.Commutes g) : g.Commutes f :=
  fun j k r r' => (h k j r r').symm

/-- Fields with places of their own may be decoded in either order. -/
lemma Field.commutes_of {α β : Type} {name name' : String} {required required' : Bool}
    {decode : Json → Decoded α} {decode' : Json → Decoded β} {encode : α → Json}
    {encode' : β → Json} {get : ρ → α} {get' : ρ → β} {set : α → ρ → ρ} {set' : β → ρ → ρ}
    (h : ∀ a b r, set' b (set a r) = set a (set' b r)) :
    (Field.of name required decode encode get set).Commutes
      (Field.of name' required' decode' encode' get' set') := by
  intro j k r r'
  cases hj : decode j <;> cases hk : decode' k <;>
    simp [Field.of, hj, hk, Except.map, Except.bind, h]

namespace Schema

/-- The fields of a record have names of their own, and may be decoded in any order. -/
structure Lawful (s : Schema ρ) : Prop where
  /-- The names are all different. -/
  names : (s.fields.map (·.name)).Nodup
  /-- The order makes no difference. -/
  commute : s.fields.Pairwise Field.Commutes

/-- Decodes values into fields, one after the other. -/
def putAll : List (Field ρ × Json) → ρ → Decoded ρ
  | [], r => .ok r
  | (f, j) :: rest, r => (f.put j r).bind (putAll rest)

/-- The values of an object for the fields of a record, in the order of the keys. -/
def known (s : Schema ρ) (given : List (String × Json)) : List (Field ρ × Json) :=
  given.filterMap fun e => (s.field? e.1).map (·, e.2)

/-- The values of an object for the fields of a record, in the order of declaration. -/
def taken (s : Schema ρ) (given : List (String × Json)) : List (Field ρ × Json) :=
  s.fields.filterMap fun f => (lookup f.name given).map (f, ·)

/-- Putting nothing changes nothing. -/
@[simp] lemma putAll_nil_eq_ok_iff {r r' : ρ} : putAll [] r = .ok r' ↔ r = r' := by
  rw [putAll, Except.ok.injEq]

/-- Putting several values is putting the first, then the others. -/
lemma putAll_cons_eq_ok_iff {f : Field ρ} {j : Json} {rest : List (Field ρ × Json)} {r r' : ρ} :
    putAll ((f, j) :: rest) r = .ok r' ↔
      ∃ r₁, f.put j r = .ok r₁ ∧ putAll rest r₁ = .ok r' := by
  rw [putAll]
  cases f.put j r <;> simp [Except.bind]

/-- An array that may not end early is read item by item, as many as there are fields. -/
lemma putItems_eq_ok_iff {s : Schema ρ} (hs : s.mayEndEarly = false) {count : Nat}
    {fields : List (Field ρ)} {items : List Json} {r r' : ρ} :
    s.putItems count fields items r = .ok r' ↔
      items.length = fields.length ∧ putAll (fields.zip items) r = .ok r' := by
  induction fields generalizing items r with
  | nil => cases items <;> simp [putItems]
  | cons f fields ih =>
    cases items with
    | nil => simp [putItems, hs]
    | cons j items =>
      rw [putItems, List.zip_cons_cons, putAll, List.length_cons, List.length_cons,
        Nat.succ_inj]
      cases f.put j r with
      | error e => simp [Except.bind]
      | ok r₁ => exact ih

/-! ## The order of decoding -/

/-- Where the fields may be decoded in either order, they may be decoded in any. -/
lemma putAll_perm {ps qs : List (Field ρ × Json)} (h : ps.Perm qs)
    (hcommute : ps.Pairwise fun p q => p.1.Commutes q.1) (r r' : ρ) :
    putAll ps r = .ok r' ↔ putAll qs r = .ok r' := by
  induction h generalizing r with
  | nil => exact Iff.rfl
  | cons p _ ih =>
    obtain ⟨f, j⟩ := p
    rw [putAll, putAll]
    cases f.put j r with
    | error e => exact Iff.rfl
    | ok r₁ => exact ih (List.pairwise_cons.1 hcommute).2 r₁
  | swap p q rest =>
    have hswap : q.1.Commutes p.1 := (List.pairwise_cons.1 hcommute).1 p List.mem_cons_self
    have htwo : ∀ p q : Field ρ × Json, putAll (p :: q :: rest) r = .ok r' ↔
        ∃ r₂, (p.1.put p.2 r).bind (q.1.put q.2) = .ok r₂ ∧ putAll rest r₂ = .ok r' := by
      intro p q
      simp only [putAll]
      cases p.1.put p.2 r with
      | error e => simp [Except.bind]
      | ok r₁ =>
        simp only [Except.bind]
        cases q.1.put q.2 r₁ <;> simp
    rw [htwo, htwo]
    exact exists_congr fun r₂ => and_congr_left' (hswap q.2 p.2 r r₂)
  | trans hps _ ih ih' =>
    have hcommute' := (hps.pairwise_iff fun h => Field.Commutes.symm h).1 hcommute
    exact (ih hcommute r).trans (ih' hcommute' r)

/-- An object is decoded value by value. -/
lemma putFields_eq (s : Schema ρ) (given : List (String × Json)) (r : ρ) :
    s.putFields given r = putAll (s.known given) r := by
  induction given generalizing r with
  | nil => rfl
  | cons e given ih =>
    obtain ⟨key, value⟩ := e
    rw [putFields, known, List.filterMap_cons]
    cases hfield : s.field? key with
    | none => exact ih r
    | some f =>
      simp only [Option.map_some, putAll]
      cases f.put value r with
      | error e => rfl
      | ok r₁ => exact ih r₁

section

variable {s : Schema ρ} {given : List (String × Json)} {f : Field ρ}

/-- A field is found by its name. -/
lemma field?_eq_some_iff (hs : s.Lawful) {key : String} :
    s.field? key = some f ↔ f ∈ s.fields ∧ f.name = key := by
  constructor
  · intro h
    exact ⟨List.mem_of_find?_eq_some h, by simpa using List.find?_some h⟩
  · rintro ⟨hf, rfl⟩
    cases hfound : s.field? f.name with
    | none => exact absurd (decide_eq_true rfl) (List.find?_eq_none.1 hfound f hf)
    | some g =>
      have hg : g ∈ s.fields := List.mem_of_find?_eq_some hfound
      have hname : g.name = f.name := by simpa using List.find?_some hfound
      rw [List.inj_on_of_nodup_map hs.names hg hf hname]

/-- Known are the values that are given for fields of the schema. -/
lemma mem_known (hs : s.Lawful) {j : Json} :
    (f, j) ∈ s.known given ↔ f ∈ s.fields ∧ (f.name, j) ∈ given := by
  simp only [known, List.mem_filterMap, Option.map_eq_some_iff, Prod.mk.injEq]
  constructor
  · rintro ⟨⟨key, value⟩, hmem, g, hfield, rfl, rfl⟩
    obtain ⟨hf, rfl⟩ := (field?_eq_some_iff hs).1 hfield
    exact ⟨hf, hmem⟩
  · rintro ⟨hf, hmem⟩
    exact ⟨(f.name, j), hmem, f, (field?_eq_some_iff hs).2 ⟨hf, rfl⟩, rfl, rfl⟩

/-- Taken is what is looked up under the name of a field of the schema. -/
lemma mem_taken {j : Json} :
    (f, j) ∈ s.taken given ↔ f ∈ s.fields ∧ lookup f.name given = some j := by
  simp only [taken, List.mem_filterMap, Option.map_eq_some_iff, Prod.mk.injEq]
  constructor
  · rintro ⟨g, hg, j', hlookup, rfl, rfl⟩
    exact ⟨hg, hlookup⟩
  · rintro ⟨hf, hlookup⟩
    exact ⟨f, hf, j, hlookup, rfl, rfl⟩

/-- The values are the same in either order. -/
lemma known_perm_taken (hs : s.Lawful) (hgiven : Ascending given) :
    (s.known given).Perm (s.taken given) := by
  have hkeys : given.Pairwise fun e e' => e.1 ≠ e'.1 := hgiven.imp fun hlt => hlt.ne
  have hknown : (s.known given).Nodup := by
    refine List.Pairwise.filterMap _ (fun e e' hne p hp q hq heq => ?_) hkeys
    obtain ⟨f, hf, rfl⟩ := Option.map_eq_some_iff.1 hp
    obtain ⟨g, hg, rfl⟩ := Option.map_eq_some_iff.1 hq
    obtain ⟨rfl, -⟩ := Prod.mk.inj heq
    exact hne (((field?_eq_some_iff hs).1 hf).2.symm.trans ((field?_eq_some_iff hs).1 hg).2)
  have hfields : s.fields.Nodup := List.Nodup.of_map _ hs.names
  have htaken : (s.taken given).Nodup := by
    refine List.Pairwise.filterMap _ (fun f g hne p hp q hq heq => ?_) hfields
    obtain ⟨j, -, rfl⟩ := Option.map_eq_some_iff.1 hp
    obtain ⟨k, -, rfl⟩ := Option.map_eq_some_iff.1 hq
    exact hne (Prod.mk.inj heq).1
  refine (List.perm_ext_iff_of_nodup hknown htaken).2 fun ⟨f, j⟩ => ?_
  rw [mem_known hs, mem_taken, lookup_eq_some_iff hgiven]

/-- **An object is read as the record that its values make in the order of declaration**, if no
required field is missing. -/
theorem readObject_eq_ok_iff (hs : s.Lawful) (hgiven : Ascending given) {r : ρ} :
    s.readObject given = .ok r ↔
      s.missing? given = none ∧ putAll (s.taken given) s.blank = .ok r := by
  have hcommute : (s.taken given).Pairwise fun p q => p.1.Commutes q.1 := by
    refine List.Pairwise.filterMap _ (fun f g hcommutes p hp q hq => ?_) hs.commute
    obtain ⟨j, -, rfl⟩ := Option.map_eq_some_iff.1 hp
    obtain ⟨k, -, rfl⟩ := Option.map_eq_some_iff.1 hq
    exact hcommutes
  rw [putAll_perm (known_perm_taken hs hgiven).symm hcommute, ← putFields_eq, readObject]
  cases s.putFields given s.blank with
  | error e => simp
  | ok r₁ => cases s.missing? given <;> simp

/-- No required field is missing just if all of them are given. -/
lemma missing?_eq_none_iff :
    s.missing? given = none ↔
      ∀ f ∈ s.fields, f.required = true → (lookup f.name given).isSome := by
  simp only [missing?, Option.map_eq_none_iff, List.find?_eq_none, Bool.and_eq_true, not_and,
    Option.isNone_iff_eq_none, Option.isSome_iff_ne_none, ne_eq]

end

end Schema

end LintPool.Json
