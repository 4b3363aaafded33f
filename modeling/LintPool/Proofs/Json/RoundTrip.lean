import Mathlib.Data.String.Basic
import LintPool.Proofs.Json.Bounds
import LintPool.Proofs.Json.Scalars

set_option autoImplicit false

/-!
# Values that are written and read

The compact form of a value is read back as that value. This is proved for the values that are
built without floating point numbers, from integers that stay integers, and are nested no deeper
than the reader goes.

## Main definitions

* `LintPool.Json.Plain` — the values that are built so, nested at most so deep.
* `LintPool.Json.ReadsBack` — reading gives back what was written, and leaves what follows.

## Main results

* `LintPool.Json.readsBack_of_plain` — those values read back, whatever ends their last number.
* `LintPool.Json.ofBytes_render` — the compact form, read as a document, is the value.
-/

namespace LintPool.Json

open Text (spell)

/-- A value is built from null, truth values, integers that stay integers, texts, arrays and
objects, with at most `depth` arrays and objects around any part of it, itself included. -/
inductive Plain : Nat → Json → Prop
  | null {depth : Nat} : Plain depth .null
  | bool {depth : Nat} (b : Bool) : Plain depth (.bool b)
  | int {depth : Nat} {i : Int} (hlow : -2 ^ 63 ≤ i) (hhigh : i < 2 ^ 64) : Plain depth (.int i)
  | str {depth : Nat} (s : String) : Plain depth (.str s)
  | arr {depth : Nat} {items : List Json} (h : ∀ v ∈ items, Plain depth v) :
    Plain (depth + 1) (.arr items)
  | object {depth : Nat} {fields : List (String × Json)} (h : ∀ f ∈ fields, Plain depth f.2) :
    Plain (depth + 1) (.object fields)

/-! ## Fields in the order of their keys -/

/-- The keys of a field list ascend. -/
def Ascending (fields : List (String × Json)) : Prop :=
  fields.Pairwise (·.1 < ·.1)

/-- Setting a field adds no field but that one. -/
lemma mem_setField {key : String} {value : Json} {fields : List (String × Json)}
    {f : String × Json} (h : f ∈ setField key value fields) : f = (key, value) ∨ f ∈ fields := by
  induction fields with
  | nil => simpa [setField] using h
  | cons head rest ih =>
    obtain ⟨k, v⟩ := head
    rw [setField] at h
    split_ifs at h
    · simpa using h
    · rcases List.mem_cons.1 h with h | h
      · exact .inl h
      · exact .inr (List.mem_cons_of_mem _ h)
    · rcases List.mem_cons.1 h with h | h
      · exact .inr (h ▸ List.mem_cons_self)
      · exact (ih h).imp_right (List.mem_cons_of_mem _)

/-- Setting a field keeps the order. -/
lemma ascending_setField (key : String) (value : Json) {fields : List (String × Json)}
    (h : Ascending fields) : Ascending (setField key value fields) := by
  induction fields with
  | nil => exact List.pairwise_singleton _ _
  | cons head rest ih =>
    obtain ⟨k, v⟩ := head
    obtain ⟨hhead, hrest⟩ := List.pairwise_cons.1 h
    rw [setField]
    split_ifs with hlt heq
    · refine List.pairwise_cons.2 ⟨fun f hf => ?_, h⟩
      rcases List.mem_cons.1 hf with rfl | hf
      · exact hlt
      · exact hlt.trans (hhead f hf)
    · subst heq
      exact List.pairwise_cons.2 ⟨hhead, hrest⟩
    · refine List.pairwise_cons.2 ⟨fun f hf => ?_, ih hrest⟩
      rcases mem_setField hf with rfl | hf
      · exact lt_of_le_of_ne (not_lt.1 hlt) (Ne.symm heq)
      · exact hhead f hf

/-- A field after all others is set at the end. -/
lemma setField_append {key : String} {value : Json} {fields : List (String × Json)}
    (h : ∀ f ∈ fields, f.1 < key) : setField key value fields = fields ++ [(key, value)] := by
  induction fields with
  | nil => rfl
  | cons head rest ih =>
    obtain ⟨k, v⟩ := head
    have hk : k < key := h (k, v) List.mem_cons_self
    rw [setField, if_neg hk.not_gt, if_neg hk.ne', ih fun f hf => h f (List.mem_cons_of_mem _ hf),
      List.cons_append]

/-- An object has its fields in order, and only those that it is made of. -/
lemma sortFields_spec (fields : List (String × Json)) :
    Ascending (sortFields fields) ∧ ∀ f ∈ sortFields fields, f ∈ fields := by
  have hfold : ∀ fields acc : List (String × Json), Ascending acc →
      Ascending (fields.foldl (fun acc f => setField f.1 f.2 acc) acc) ∧
        ∀ f ∈ fields.foldl (fun acc f => setField f.1 f.2 acc) acc, f ∈ fields ∨ f ∈ acc := by
    intro fields
    induction fields with
    | nil => exact fun acc hacc => ⟨hacc, fun f hf => .inr hf⟩
    | cons head rest ih =>
      intro acc hacc
      obtain ⟨hsorted, hmem⟩ := ih _ (ascending_setField head.1 head.2 hacc)
      refine ⟨hsorted, fun f hf => ?_⟩
      rcases hmem f hf with hf | hf
      · exact .inl (List.mem_cons_of_mem _ hf)
      · refine (mem_setField hf).imp_left fun heq => ?_
        rw [heq]
        exact List.mem_cons_self
  obtain ⟨hsorted, hmem⟩ := hfold fields [] .nil
  exact ⟨hsorted, fun f hf => (hmem f hf).resolve_right List.not_mem_nil⟩

/-! ## What is written -/

/-- The bytes that a value is written as. -/
def written (v : Json) : Bytes :=
  spell (renderOnto v [])

/-- The bytes of a key and the colon after it. -/
def writtenKey (k : String) : Bytes :=
  0x22 :: (spell (k.toList.flatMap escape) ++ [0x22, 0x3A])

/-- The bytes of items, each after a comma. -/
def writtenItems (vs : List Json) : Bytes :=
  vs.flatMap fun v => 0x2C :: written v

/-- The bytes of fields, each after a comma. -/
def writtenFields (fs : List (String × Json)) : Bytes :=
  fs.flatMap fun f => 0x2C :: (writtenKey f.1 ++ written f.2)

mutual

/-- A value is written in front of what follows it. -/
lemma renderOnto_eq_append : ∀ (v : Json) (tail : List Char),
    renderOnto v tail = renderOnto v [] ++ tail
  | .null, tail => rfl
  | .bool true, tail => rfl
  | .bool false, tail => rfl
  | .int i, tail => by simp [renderOnto]
  | .float x, tail => by simp only [renderOnto]; split <;> simp
  | .str s, tail => by simp [renderOnto]
  | .arr [], tail => rfl
  | .arr (v :: vs), tail => by
    rw [renderOnto, renderOnto, renderOnto_eq_append v,
      renderOnto_eq_append v (renderItems vs [']']),
      renderItems_eq_append vs, renderItems_eq_append vs [']']]
    simp
  | .obj [], tail => rfl
  | .obj ((k, v) :: fs), tail => by
    rw [renderOnto, renderOnto, renderOnto_eq_append v,
      renderOnto_eq_append v (renderFields fs ['\x7d']), renderFields_eq_append fs,
      renderFields_eq_append fs ['\x7d']]
    simp

/-- Items are written in front of what follows them. -/
lemma renderItems_eq_append : ∀ (vs : List Json) (tail : List Char),
    renderItems vs tail = renderItems vs [] ++ tail
  | [], tail => rfl
  | v :: vs, tail => by
    rw [renderItems, renderItems, renderOnto_eq_append v,
      renderOnto_eq_append v (renderItems vs []),
      renderItems_eq_append vs]
    simp

/-- Fields are written in front of what follows them. -/
lemma renderFields_eq_append : ∀ (fs : List (String × Json)) (tail : List Char),
    renderFields fs tail = renderFields fs [] ++ tail
  | [], tail => rfl
  | (k, v) :: fs, tail => by
    rw [renderFields, renderFields, renderOnto_eq_append v,
      renderOnto_eq_append v (renderFields fs []), renderFields_eq_append fs]
    simp

end

/-- The items after the first are written after commas. -/
lemma spell_renderItems (vs : List Json) : spell (renderItems vs []) = writtenItems vs := by
  induction vs with
  | nil => rfl
  | cons v vs ih =>
    rw [renderItems, renderOnto_eq_append, Text.spell_cons, Text.spell_append, ih]
    rfl

/-- A key is written with its colon. -/
lemma spell_key (k : String) (tail : List Char) :
    spell (quote k ++ ':' :: tail) = writtenKey k ++ spell tail := by
  rw [quote, writtenKey, List.cons_append, Text.spell_cons, List.append_assoc, Text.spell_append,
    List.cons_append, List.nil_append, Text.spell_cons, Text.spell_cons, List.cons_append,
    List.append_assoc]
  rfl

/-- The fields after the first are written after commas. -/
lemma spell_renderFields (fs : List (String × Json)) :
    spell (renderFields fs []) = writtenFields fs := by
  induction fs with
  | nil => rfl
  | cons f fs ih =>
    obtain ⟨k, v⟩ := f
    rw [renderFields, renderOnto_eq_append, Text.spell_cons, spell_key, Text.spell_append, ih,
      writtenFields, writtenFields, List.flatMap_cons, List.cons_append, List.append_assoc]
    rfl

/-- A text is written between quotes. -/
lemma written_str (s : String) :
    written (.str s) = 0x22 :: (spell (s.toList.flatMap escape) ++ [0x22]) := by
  rw [written, renderOnto, List.append_nil, quote, Text.spell_cons, Text.spell_append]
  rfl

/-- An array is written between brackets, its first item without a comma. -/
lemma written_arr (v : Json) (vs : List Json) :
    written (.arr (v :: vs)) = 0x5B :: (written v ++ (writtenItems vs ++ [0x5D])) := by
  rw [written, renderOnto, renderOnto_eq_append, renderItems_eq_append, Text.spell_cons,
    Text.spell_append, Text.spell_append, spell_renderItems]
  rfl

/-- An object is written between braces, its first field without a comma. -/
lemma written_obj (k : String) (v : Json) (fs : List (String × Json)) :
    written (.obj ((k, v) :: fs)) =
      0x7B :: (writtenKey k ++ (written v ++ (writtenFields fs ++ [0x7D]))) := by
  rw [written, renderOnto, renderOnto_eq_append, renderFields_eq_append, Text.spell_cons,
    spell_key, Text.spell_append, Text.spell_append, spell_renderFields]
  rfl

/-! ## What is read -/

/-- A value that is written is read back in front of what follows it, unless that goes on with its
last number; three calls for each byte are enough. -/
structure ReadsBack (depth : Nat) (v : Json) : Prop where
  /-- The value starts with a byte that is no blank and does not end an array. -/
  starts : ∃ b more, written v = b :: more ∧ isSpace b = false ∧ b ≠ 0x5D
  /-- The value is read and what follows it is left. -/
  reads : ∀ rest fuel, EndsNumber rest → 3 * (written v ++ rest).length ≤ fuel →
    readValue fuel depth (written v ++ rest) = .ok (v, rest)

/-- A byte that is no blank is not skipped. -/
lemma skipSpace_cons {b : UInt8} (h : isSpace b = false) (rest : Bytes) :
    skipSpace (b :: rest) = b :: rest := by
  rw [skipSpace, List.dropWhile_cons_of_neg (by simp [h])]

/-- A word is taken in front of what follows it. -/
lemma readWord_append (word rest : Bytes) : readWord word (word ++ rest) = .ok rest := by
  induction word with
  | nil => rfl
  | cons b word ih => rw [List.cons_append, readWord, if_pos rfl, ih]

/-- Neither a comma nor a closing bracket goes on with a number. -/
lemma endsNumber_items (vs : List Json) (rest : Bytes) :
    EndsNumber (writtenItems vs ++ 0x5D :: rest) := by
  intro b hb
  cases vs with
  | nil => cases hb; decide
  | cons v vs => cases hb; decide

/-- Neither a comma nor a closing brace goes on with a number. -/
lemma endsNumber_fields (fs : List (String × Json)) (rest : Bytes) :
    EndsNumber (writtenFields fs ++ 0x7D :: rest) := by
  intro b hb
  cases fs with
  | nil => cases hb; decide
  | cons f fs => cases hb; decide

/-- To show that a value reads back, it is enough to read what follows its first byte. -/
lemma readsBack_of_cons {depth : Nat} {v : Json} {b : UInt8} {more : Bytes}
    (hwritten : written v = b :: more) (hblank : isSpace b = false) (hclose : b ≠ 0x5D)
    (hread : ∀ rest fuel, EndsNumber rest → 3 * (more ++ rest).length + 2 ≤ fuel →
      readValue (fuel + 1) depth (b :: (more ++ rest)) = .ok (v, rest)) : ReadsBack depth v where
  starts := ⟨b, more, hwritten, hblank, hclose⟩
  reads rest fuel hend hfuel := by
    rw [hwritten, List.cons_append, List.length_cons] at hfuel
    obtain ⟨fuel, rfl⟩ := Nat.exists_eq_add_of_le' (show 1 ≤ fuel by omega)
    rw [hwritten, List.cons_append]
    exact hread rest fuel hend (by omega)

section Scalars

variable {depth : Nat}

/-- Null reads back. -/
lemma readsBack_null : ReadsBack depth .null := by
  have hwritten : written .null = 0x6E :: [0x75, 0x6C, 0x6C] := rfl
  refine readsBack_of_cons hwritten rfl (by decide) fun rest fuel _ _ => ?_
  rw [readValue, skipSpace_cons rfl]
  simp only [readWord_append]
  rfl

/-- A truth value reads back. -/
lemma readsBack_bool (b : Bool) : ReadsBack depth (.bool b) := by
  cases b with
  | true =>
    have hwritten : written (.bool true) = 0x74 :: [0x72, 0x75, 0x65] := rfl
    refine readsBack_of_cons hwritten rfl (by decide) fun rest fuel _ _ => ?_
    rw [readValue, skipSpace_cons rfl]
    simp only [readWord_append]
    rfl
  | false =>
    have hwritten : written (.bool false) = 0x66 :: [0x61, 0x6C, 0x73, 0x65] := rfl
    refine readsBack_of_cons hwritten rfl (by decide) fun rest fuel _ _ => ?_
    rw [readValue, skipSpace_cons rfl]
    simp only [readWord_append]
    rfl

/-- A text reads back. -/
lemma readsBack_str (s : String) : ReadsBack depth (.str s) := by
  refine readsBack_of_cons (written_str s) rfl (by decide) fun rest fuel _ _ => ?_
  rw [readValue, skipSpace_cons rfl, List.append_assoc, List.cons_append, List.nil_append]
  simp only [readText_quote]
  rfl

/-- The digits of a number start with a digit. -/
lemma spell_toDigits (n : Nat) :
    ∃ b more, spell (Nat.toDigits 10 n) = b :: more ∧ isDigit b = true := by
  obtain ⟨c, cs, hdigits⟩ := List.exists_cons_of_ne_nil (Nat.toDigits_ne_nil (n := n) (b := 10))
  have hc : c.isDigit = true :=
    Nat.isDigit_of_mem_toDigits (by decide) (by decide) (hdigits ▸ List.mem_cons_self)
  obtain ⟨hbytes, hdigit, -⟩ := digit?_ofNat hc
  exact ⟨_, spell cs, by rw [hdigits, Text.spell_cons, hbytes]; rfl, hdigit⟩

/-- A digit is no blank, and none of the other bytes that a value starts with. -/
lemma of_isDigit {b : UInt8} (h : isDigit b = true) :
    isSpace b = false ∧ b ≠ 0x5D ∧ b ≠ 0x6E ∧ b ≠ 0x74 ∧ b ≠ 0x66 ∧ b ≠ 0x2D := by
  simp only [isDigit, Bool.and_eq_true, decide_eq_true_eq, UInt8.le_iff_toNat_le,
    UInt8.reduceToNat] at h
  simp only [isSpace, Bool.or_eq_false_iff, beq_eq_false_iff_ne, ne_eq, ← UInt8.toNat_inj,
    UInt8.reduceToNat]
  omega

/-- An integer that stays one reads back. -/
lemma readsBack_int {i : Int} (hlow : -2 ^ 63 ≤ i) (hhigh : i < 2 ^ 64) :
    ReadsBack depth (.int i) := by
  have hfit : i.natAbs ≤ maxWord64 := by
    have hmax : maxWord64 = 18446744073709551615 := rfl
    omega
  have hvalue := integerOf_natAbs hlow
  obtain ⟨b, more, hdigits, hb⟩ := spell_toDigits i.natAbs
  obtain ⟨hblank, hclose, hnull, htrue, hfalse, hminus⟩ := of_isDigit hb
  have hread : ∀ rest, EndsNumber rest →
      readNumber (i < 0) (b :: more ++ rest) = .ok (.int i, rest) := by
    intro rest hend
    rw [← hdigits, readNumber_toDigits hfit hend, hvalue]
  have hwritten : written (.int i) = if i < 0 then 0x2D :: b :: more else b :: more := by
    rw [written, renderOnto, List.append_nil, integer, ← hdigits]
    split <;> rfl
  rcases lt_or_ge i 0 with hneg | hpos
  · rw [if_pos hneg] at hwritten
    simp only [hneg, decide_true] at hread
    refine readsBack_of_cons hwritten rfl (by decide) fun rest fuel hend _ => ?_
    rw [readValue, skipSpace_cons rfl]
    exact hread rest hend
  · rw [if_neg (not_lt.2 hpos)] at hwritten
    simp only [not_lt.2 hpos, decide_false] at hread
    refine readsBack_of_cons hwritten hblank hclose fun rest fuel hend _ => ?_
    rw [readValue, skipSpace_cons hblank]
    simp only [hnull, htrue, hfalse, hminus, hb, if_false, if_true]
    exact hread rest hend

end Scalars

section Parts

variable {depth : Nat}

/-- Items after commas are read up to the end of the array. -/
lemma readItems_written {vs : List Json} (h : ∀ v ∈ vs, ReadsBack depth v) {done : List Json}
    {rest : Bytes} {fuel : Nat} (hfuel : 3 * (writtenItems vs ++ 0x5D :: rest).length < fuel) :
    readItems fuel depth false done (writtenItems vs ++ 0x5D :: rest) =
      .ok (.arr (done.reverse ++ vs), rest) := by
  induction vs generalizing done fuel with
  | nil =>
    obtain ⟨fuel, rfl⟩ := Nat.exists_eq_add_of_le' (show 1 ≤ fuel by omega)
    rw [writtenItems, List.flatMap_nil, List.nil_append, readItems, skipSpace_cons rfl,
      List.append_nil]
    rfl
  | cons v vs ih =>
    obtain ⟨hv, hvs⟩ := List.forall_mem_cons.1 h
    obtain ⟨b, more, hbytes, hblank, hclose⟩ := hv.starts
    have hinput : writtenItems (v :: vs) ++ 0x5D :: rest =
        0x2C :: (written v ++ (writtenItems vs ++ 0x5D :: rest)) := by
      rw [writtenItems, List.flatMap_cons, List.cons_append, List.cons_append, List.append_assoc,
        ← writtenItems]
    rw [hinput] at hfuel ⊢
    simp only [List.length_cons, List.length_append] at hfuel ih
    obtain ⟨fuel, rfl⟩ := Nat.exists_eq_add_of_le' (show 1 ≤ fuel by omega)
    have hread := hv.reads _ fuel (endsNumber_items vs rest) (by simp; omega)
    rw [hbytes, List.cons_append] at hread
    rw [hbytes] at hfuel
    rw [readItems, skipSpace_cons rfl, hbytes, List.cons_append]
    simp only [skipSpace_cons hblank, hclose, hread, if_false, Bool.false_eq_true]
    rw [ih hvs (by simp at hfuel; omega), List.reverse_cons, List.append_assoc]
    rfl

/-- A field, the opening quote of its key taken, is read and set. -/
lemma readField_written (key : String) {v : Json} (hv : ReadsBack depth v)
    (done : List (String × Json)) {rest : Bytes} (hend : EndsNumber rest) {fuel : Nat}
    (hfuel : 3 * (written v ++ rest).length ≤ fuel) :
    readField (fuel + 1) depth done
        (spell (key.toList.flatMap escape) ++ 0x22 :: 0x3A :: (written v ++ rest)) =
      readFields fuel depth false (setField key v done) rest := by
  have hcolon : readColon (0x3A :: (written v ++ rest)) = .ok (written v ++ rest) := by
    rw [readColon, skipSpace_cons rfl]
    rfl
  rw [readField, readText_quote]
  simp only [hcolon, hv.reads rest fuel hend hfuel]

/-- Fields after commas are read up to the end of the object. -/
lemma readFields_written {fs : List (String × Json)} (h : ∀ f ∈ fs, ReadsBack depth f.2)
    (done : List (String × Json)) (hdone : Ascending (done ++ fs)) {rest : Bytes} {fuel : Nat}
    (hfuel : 3 * (writtenFields fs ++ 0x7D :: rest).length < fuel) :
    readFields fuel depth false done (writtenFields fs ++ 0x7D :: rest) =
      .ok (.obj (done ++ fs), rest) := by
  induction fs generalizing done fuel with
  | nil =>
    obtain ⟨fuel, rfl⟩ := Nat.exists_eq_add_of_le' (show 1 ≤ fuel by omega)
    rw [writtenFields, List.flatMap_nil, List.nil_append, readFields, skipSpace_cons rfl,
      List.append_nil]
    rfl
  | cons f fs ih =>
    obtain ⟨key, v⟩ := f
    obtain ⟨hv, hfs⟩ := List.forall_mem_cons.1 h
    have hinput : writtenFields ((key, v) :: fs) ++ 0x7D :: rest =
        0x2C :: 0x22 :: (spell (key.toList.flatMap escape) ++
          0x22 :: 0x3A :: (written v ++ (writtenFields fs ++ 0x7D :: rest))) := by
      simp [writtenFields, writtenKey]
    have hlast : setField key v done = done ++ [(key, v)] := by
      refine setField_append fun f hf => ?_
      exact (List.pairwise_append.1 hdone).2.2 f hf (key, v) List.mem_cons_self
    rw [hinput] at hfuel ⊢
    simp only [List.length_cons, List.length_append] at hfuel ih
    obtain ⟨fuel, rfl⟩ := Nat.exists_eq_add_of_le' (show 2 ≤ fuel by omega)
    have hroom : 3 * (written v ++ (writtenFields fs ++ 0x7D :: rest)).length ≤ fuel := by
      simp only [List.length_cons, List.length_append]
      omega
    have hfield := readField_written key hv done (endsNumber_fields fs rest) hroom
    have hlater : readFields fuel depth false (done ++ [(key, v)])
        (writtenFields fs ++ 0x7D :: rest) = .ok (.obj (done ++ [(key, v)] ++ fs), rest) :=
      ih hfs _ (by rwa [List.append_assoc]) (by omega)
    rw [hlast, hlater, List.append_assoc] at hfield
    rw [readFields, skipSpace_cons rfl]
    simp only [skipSpace_cons (show isSpace 0x22 = false from rfl)]
    exact hfield

/-- An array reads back, one level deeper than its items. -/
lemma readsBack_arr {items : List Json} (h : ∀ v ∈ items, ReadsBack depth v) :
    ReadsBack (depth + 1) (.arr items) := by
  cases items with
  | nil =>
    have hwritten : written (.arr []) = 0x5B :: [0x5D] := rfl
    refine readsBack_of_cons hwritten rfl (by decide) fun rest fuel _ hfuel => ?_
    obtain ⟨fuel, rfl⟩ := Nat.exists_eq_add_of_le' (show 1 ≤ fuel by omega)
    rw [readValue, skipSpace_cons rfl]
    simp only [readItems, List.cons_append, skipSpace_cons (show isSpace 0x5D = false from rfl)]
    rfl
  | cons v vs =>
    obtain ⟨hv, hvs⟩ := List.forall_mem_cons.1 h
    obtain ⟨b, more, hbytes, hblank, hclose⟩ := hv.starts
    refine readsBack_of_cons (written_arr v vs) rfl (by decide) fun rest fuel _ hfuel => ?_
    rw [List.append_assoc, List.append_assoc, List.cons_append, List.nil_append] at hfuel ⊢
    simp only [List.length_append, List.length_cons] at hfuel
    obtain ⟨fuel, rfl⟩ := Nat.exists_eq_add_of_le' (show 1 ≤ fuel by omega)
    have hread := hv.reads _ fuel (endsNumber_items vs rest) (by simp; omega)
    have hlater : readItems fuel depth false [v] (writtenItems vs ++ 0x5D :: rest) =
        .ok (.arr (v :: vs), rest) :=
      readItems_written hvs (by rw [hbytes] at hfuel; simp at hfuel ⊢; omega)
    rw [hbytes, List.cons_append] at hread
    rw [readValue, skipSpace_cons rfl]
    simp only [readItems, hbytes, List.cons_append, skipSpace_cons hblank, hclose, hread]
    exact hlater

/-- An object whose keys ascend reads back, one level deeper than its values. -/
lemma readsBack_obj {fields : List (String × Json)} (hfields : Ascending fields)
    (h : ∀ f ∈ fields, ReadsBack depth f.2) : ReadsBack (depth + 1) (.obj fields) := by
  cases fields with
  | nil =>
    have hwritten : written (.obj []) = 0x7B :: [0x7D] := rfl
    refine readsBack_of_cons hwritten rfl (by decide) fun rest fuel _ hfuel => ?_
    obtain ⟨fuel, rfl⟩ := Nat.exists_eq_add_of_le' (show 1 ≤ fuel by omega)
    rw [readValue, skipSpace_cons rfl]
    simp only [readFields, List.cons_append, skipSpace_cons (show isSpace 0x7D = false from rfl)]
    rfl
  | cons f fs =>
    obtain ⟨key, v⟩ := f
    obtain ⟨hv, hfs⟩ := List.forall_mem_cons.1 h
    refine readsBack_of_cons (written_obj key v fs) rfl (by decide) fun rest fuel _ hfuel => ?_
    have hinput : writtenKey key ++ (written v ++ (writtenFields fs ++ [0x7D])) ++ rest =
        0x22 :: (spell (key.toList.flatMap escape) ++
          0x22 :: 0x3A :: (written v ++ (writtenFields fs ++ 0x7D :: rest))) := by
      simp [writtenKey]
    rw [hinput] at hfuel ⊢
    simp only [List.length_cons, List.length_append] at hfuel
    obtain ⟨fuel, rfl⟩ := Nat.exists_eq_add_of_le' (show 2 ≤ fuel by omega)
    have hroom : 3 * (written v ++ (writtenFields fs ++ 0x7D :: rest)).length ≤ fuel := by
      simp only [List.length_cons, List.length_append]
      omega
    have hfield := readField_written key hv [] (endsNumber_fields fs rest) hroom
    have hlater : readFields fuel depth false [(key, v)] (writtenFields fs ++ 0x7D :: rest) =
        .ok (.obj ((key, v) :: fs), rest) :=
      readFields_written hfs [(key, v)] hfields (by simp; omega)
    rw [readValue, skipSpace_cons rfl]
    simp only [readFields, skipSpace_cons (show isSpace 0x22 = false from rfl)]
    exact hfield.trans hlater

end Parts

/-- **What is built without floating point numbers reads back**, if it is nested no deeper than
the reader goes. -/
theorem readsBack_of_plain {depth : Nat} {v : Json} (h : Plain depth v) : ReadsBack depth v := by
  induction h with
  | null => exact readsBack_null
  | bool b => exact readsBack_bool b
  | int hlow hhigh => exact readsBack_int hlow hhigh
  | str s => exact readsBack_str s
  | arr _ ih => exact readsBack_arr ih
  | object _ ih =>
    rename_i fields _
    obtain ⟨hascending, hmem⟩ := sortFields_spec fields
    exact readsBack_obj hascending fun f hf => ih f (hmem f hf)

/-- **The compact form of a value, read as a document, is the value.** -/
theorem ofBytes_render {v : Json} (h : Plain maxDepth v) :
    ofBytes (Text.encode v.render) = .ok v := by
  have hbytes : Text.encode v.render = written v ++ [] := by
    rw [render, Text.encode_ofList, List.append_nil, written]
  have hread := (readsBack_of_plain h).reads [] (3 * (written v ++ []).length + 1) nofun
    (Nat.le_add_right _ _)
  rw [hbytes]
  exact (ofBytes_eq_ok_iff le_rfl).2 ⟨[], hread, rfl⟩

end LintPool.Json
