import LintPool.Proofs.Json.RoundTrip

set_option autoImplicit false

/-!
# Values as they are read

A value that is read is orderly: the keys of its objects ascend, so no key comes twice, and its
integers are those that stay integers. The other functions on values rely on that.

## Main definitions

* `LintPool.Json.Orderly` — the keys ascend and the integers fit, in all of a value.

## Main results

* `LintPool.Json.orderly_of_ofBytes` — what is read is orderly.
* `LintPool.Json.lookup_eq_some_iff` — where keys ascend, a field is found just if it is there.
-/

namespace LintPool.Json

/-- The keys of all objects in a value ascend, and all integers in it stay integers. -/
inductive Orderly : Json → Prop
  | null : Orderly .null
  | bool (b : Bool) : Orderly (.bool b)
  | int {i : Int} (hlow : -2 ^ 63 ≤ i) (hhigh : i < 2 ^ 64) : Orderly (.int i)
  | float (x : Binary64) : Orderly (.float x)
  | str (s : String) : Orderly (.str s)
  | arr {items : List Json} (h : ∀ v ∈ items, Orderly v) : Orderly (.arr items)
  | obj {fields : List (String × Json)} (hkeys : Ascending fields) (h : ∀ f ∈ fields, Orderly f.2) :
    Orderly (.obj fields)

/-! ## Fields of orderly objects -/

/-- The field in front is found first. -/
lemma lookup_cons (key key' : String) (value : Json) (fields : List (String × Json)) :
    lookup key ((key', value) :: fields) =
      if key' = key then some value else lookup key fields := by
  by_cases h : key' = key <;> simp [lookup, h]

/-- A field that is set is there, and the others are as before. -/
lemma lookup_setField (key key' : String) (value : Json) (fields : List (String × Json)) :
    lookup key (setField key' value fields) =
      if key' = key then some value else lookup key fields := by
  induction fields with
  | nil => exact lookup_cons key key' value []
  | cons field fields ih =>
    obtain ⟨k, v⟩ := field
    rw [setField]
    split
    · exact lookup_cons key key' value _
    · split
      · rename_i hk
        rw [lookup_cons, lookup_cons, ← hk]
        split <;> rfl
      · rename_i hk
        rw [lookup_cons, lookup_cons, ih]
        by_cases h : k = key
        · rw [if_pos h, if_pos h, if_neg (fun h' => hk (h'.trans h.symm))]
        · rw [if_neg h, if_neg h]

/-- Where keys ascend, a field is found just if it is there. -/
lemma lookup_eq_some_iff {fields : List (String × Json)} (h : Ascending fields) {key : String}
    {value : Json} : lookup key fields = some value ↔ (key, value) ∈ fields := by
  induction fields with
  | nil => simp [lookup]
  | cons field fields ih =>
    obtain ⟨k, v⟩ := field
    obtain ⟨hfirst, hrest⟩ := List.pairwise_cons.1 h
    rw [lookup_cons, List.mem_cons]
    by_cases hk : k = key
    · subst hk
      have hlater : (k, value) ∉ fields := fun hmem => lt_irrefl k (hfirst (k, value) hmem)
      simp [hlater, eq_comm]
    · have hother : (key, value) ≠ (k, v) := fun heq => hk (Prod.mk.inj heq).1.symm
      rw [if_neg hk, ih hrest]
      simp [hother]

/-- The value of a field of an orderly object is orderly. -/
lemma Orderly.lookup {fields : List (String × Json)} (h : Orderly (.obj fields)) {key : String}
    {value : Json} (hvalue : Json.lookup key fields = some value) : value.Orderly := by
  cases h with
  | obj hkeys hfields => exact hfields _ ((lookup_eq_some_iff hkeys).1 hvalue)

/-! ## Numbers that are read -/

/-- A value that comes out of reading, if one does, is orderly. -/
def YieldsOrderly (outcome : Except Fault (Json × Bytes)) : Prop :=
  ∀ v rest, outcome = .ok (v, rest) → v.Orderly

/-- A fault is no value. -/
lemma yieldsOrderly_error (f : Fault) : YieldsOrderly (.error f) :=
  fun _ _ h => nomatch h

/-- An orderly value may come out. -/
lemma yieldsOrderly_ok {v : Json} (h : v.Orderly) (rest : Bytes) :
    YieldsOrderly (.ok (v, rest)) := by
  rintro _ _ ⟨⟩
  exact h

/-- The digits that are added up fit 64 bits. -/
lemma takeDigits_le {significand : Nat} (h : significand ≤ maxWord64) (added : Nat)
    (input : Bytes) : (takeDigits significand added input).1 ≤ maxWord64 := by
  induction input generalizing significand added with
  | nil => exact h
  | cons b rest ih =>
    rw [takeDigits]
    split
    · exact h
    · split
      · exact h
      · exact ih (Nat.le_of_not_lt ‹_›) _

/-- An integer of 64 bits and a sign stays an integer, or is a floating point number. -/
lemma orderly_integerOf (negative : Bool) {significand : Nat} (h : significand ≤ maxWord64) :
    (integerOf negative significand).Orderly := by
  have hhigh : maxWord64 = 2 ^ 64 - 1 := rfl
  unfold integerOf
  split
  · exact .int (by omega) (by omega)
  · split
    · exact .float _
    · rename_i hfits
      have hlow : Nat.pow 2 63 = 2 ^ 63 := rfl
      simp only [Bool.or_eq_true, decide_eq_true_eq, not_or, Nat.not_lt, hlow] at hfits
      exact .int (by omega) (by omega)

/-- A number with a point or an exponent is orderly. -/
lemma yieldsOrderly_assemble (negative : Bool) (significand : Nat) (exponent : Int)
    (rest : Bytes) : YieldsOrderly (assemble negative significand exponent rest) := by
  unfold assemble
  split
  · exact yieldsOrderly_ok (.float _) _
  · exact yieldsOrderly_error _

/-- A number with an exponent is orderly. -/
lemma yieldsOrderly_readExponent (negative : Bool) (significand : Nat) (exponent : Int)
    (input : Bytes) : YieldsOrderly (readExponent negative significand exponent input) := by
  unfold readExponent
  dsimp only
  split
  · exact yieldsOrderly_error _
  · split
    · exact yieldsOrderly_error _
    · split
      · exact yieldsOrderly_assemble _ _ _ _
      · split_ifs
        · exact yieldsOrderly_error _
        · exact yieldsOrderly_ok (.float _) _

/-- A number with a point is orderly. -/
lemma yieldsOrderly_readFraction (negative : Bool) (significand : Nat) (exponent : Int)
    (input : Bytes) : YieldsOrderly (readFraction negative significand exponent input) := by
  unfold readFraction
  dsimp only
  split
  · exact yieldsOrderly_error _
  · split
    · split
      · exact yieldsOrderly_readExponent _ _ _ _
      · exact yieldsOrderly_assemble _ _ _ _
    · exact yieldsOrderly_assemble _ _ _ _

/-- A number whose digits fit a word is orderly, whatever follows them. -/
lemma yieldsOrderly_readNumberTail (negative : Bool) {significand : Nat}
    (h : significand ≤ maxWord64) (spare : Nat) (input : Bytes) :
    YieldsOrderly (readNumberTail negative significand spare input) := by
  unfold readNumberTail
  split
  · split_ifs
    · exact yieldsOrderly_readFraction _ _ _ _
    · exact yieldsOrderly_readExponent _ _ _ _
    · exact yieldsOrderly_ok (orderly_integerOf _ h) _
    · exact yieldsOrderly_assemble _ _ _ _
  · split_ifs
    · exact yieldsOrderly_ok (orderly_integerOf _ h) _
    · exact yieldsOrderly_assemble _ _ _ _

/-- A digit fits a word. -/
lemma digit?_le {b : UInt8} {d : Nat} (h : digit? b = some d) : d ≤ maxWord64 := by
  unfold digit? at h
  split at h
  · cases h
    have hbyte := b.toNat_lt
    have hword : maxWord64 = 2 ^ 64 - 1 := rfl
    omega
  · cases h

/-- A number is orderly. -/
lemma yieldsOrderly_readNumber (negative : Bool) (input : Bytes) :
    YieldsOrderly (readNumber negative input) := by
  unfold readNumber
  split
  · exact yieldsOrderly_error _
  · split
    · exact yieldsOrderly_error _
    · split
      · split_ifs
        · exact yieldsOrderly_error _
        · exact yieldsOrderly_readNumberTail _ (Nat.zero_le _) _ _
      · exact yieldsOrderly_readNumberTail _ (Nat.zero_le _) _ _
    · rename_i hdigit
      exact yieldsOrderly_readNumberTail _ (takeDigits_le (digit?_le hdigit) _ _) _ _

/-! ## Values that are read -/

/-- Under a bound on the calls, all readers of values yield orderly ones. -/
structure AllOrderly (fuel : Nat) : Prop where
  /-- A value is orderly. -/
  value : ∀ depth input, YieldsOrderly (readValue fuel depth input)
  /-- So is an array, if the items before are. -/
  items : ∀ depth first done input, (∀ v ∈ done, v.Orderly) →
    YieldsOrderly (readItems fuel depth first done input)
  /-- So is an object, if the fields before are, and in order. -/
  fields : ∀ depth first done input, Orderly (.obj done) →
    YieldsOrderly (readFields fuel depth first done input)
  /-- So is an object from one of its fields on. -/
  field : ∀ depth done input, Orderly (.obj done) →
    YieldsOrderly (readField fuel depth done input)

section Steps

variable {fuel : Nat}

/-- A field is set in an orderly object. -/
lemma orderly_setField {done : List (String × Json)} (hdone : Orderly (.obj done)) (key : String)
    {v : Json} (hv : v.Orderly) : Orderly (.obj (setField key v done)) := by
  cases hdone with
  | obj hkeys hfields =>
    refine .obj (ascending_setField key v hkeys) fun f hf => ?_
    rcases mem_setField hf with rfl | hf
    · exact hv
    · exact hfields f hf

/-- A word that stands for an orderly value. -/
lemma yieldsOrderly_readWord {v : Json} (hv : v.Orderly) (word rest : Bytes) :
    YieldsOrderly (do let rest ← readWord word rest; return (v, rest)) := by
  cases readWord word rest with
  | error f => exact yieldsOrderly_error f
  | ok more => exact yieldsOrderly_ok hv more

/-- If the readers yield orderly values under a bound, a value is under the next one. -/
lemma AllOrderly.value_succ (h : AllOrderly fuel) (depth : Nat) (input : Bytes) :
    YieldsOrderly (readValue (fuel + 1) depth input) := by
  rw [readValue]
  split
  · exact yieldsOrderly_error _
  · rename_i b rest _
    split_ifs
    · exact yieldsOrderly_readWord .null _ _
    · exact yieldsOrderly_readWord (.bool true) _ _
    · exact yieldsOrderly_readWord (.bool false) _ _
    · exact yieldsOrderly_readNumber _ _
    · exact yieldsOrderly_readNumber _ _
    · cases readText rest with
      | error f => exact yieldsOrderly_error f
      | ok read => exact yieldsOrderly_ok (.str read.1) read.2
    · split
      · exact yieldsOrderly_error _
      · exact h.items _ _ _ _ fun _ hv => absurd hv List.not_mem_nil
    · split
      · exact yieldsOrderly_error _
      · exact h.fields _ _ _ _ (.obj .nil fun _ hf => absurd hf List.not_mem_nil)
    · exact yieldsOrderly_error _

/-- The items behind a value that was read make an orderly array with it. -/
lemma AllOrderly.items_behind (h : AllOrderly fuel) {depth : Nat} {done : List Json}
    (hdone : ∀ v ∈ done, v.Orderly) {v : Json} {input rest : Bytes}
    (hread : readValue fuel depth input = .ok (v, rest)) :
    YieldsOrderly (readItems fuel depth false (v :: done) rest) := by
  refine h.items _ _ _ _ fun v' hv' => ?_
  rcases List.mem_cons.1 hv' with rfl | hv'
  · exact h.value _ _ _ _ hread
  · exact hdone v' hv'

/-- The items of an array are orderly under the next bound. -/
lemma AllOrderly.items_succ (h : AllOrderly fuel) (depth : Nat) (first : Bool) (done : List Json)
    (input : Bytes) (hdone : ∀ v ∈ done, v.Orderly) :
    YieldsOrderly (readItems (fuel + 1) depth first done input) := by
  rw [readItems]
  split
  · exact yieldsOrderly_error _
  · split_ifs
    · exact yieldsOrderly_ok (.arr fun v hv => hdone v (List.mem_reverse.1 hv)) _
    · split
      · exact yieldsOrderly_error _
      · exact h.items_behind hdone ‹_›
    · split
      · exact yieldsOrderly_error _
      · split_ifs
        · exact yieldsOrderly_error _
        · split
          · exact yieldsOrderly_error _
          · exact h.items_behind hdone ‹_›
    · exact yieldsOrderly_error _

/-- So are the fields of an object. -/
lemma AllOrderly.fields_succ (h : AllOrderly fuel) (depth : Nat) (first : Bool)
    (done : List (String × Json)) (input : Bytes) (hdone : Orderly (.obj done)) :
    YieldsOrderly (readFields (fuel + 1) depth first done input) := by
  rw [readFields]
  split
  · exact yieldsOrderly_error _
  · split_ifs
    · exact yieldsOrderly_ok hdone _
    · exact h.field _ _ _ hdone
    · exact yieldsOrderly_error _
    · split
      · exact yieldsOrderly_error _
      · split_ifs
        · exact h.field _ _ _ hdone
        · exact yieldsOrderly_error _
        · exact yieldsOrderly_error _
    · exact yieldsOrderly_error _

/-- So are a field and those after it. -/
lemma AllOrderly.field_succ (h : AllOrderly fuel) (depth : Nat) (done : List (String × Json))
    (input : Bytes) (hdone : Orderly (.obj done)) :
    YieldsOrderly (readField (fuel + 1) depth done input) := by
  rw [readField]
  split
  · exact yieldsOrderly_error _
  · split
    · exact yieldsOrderly_error _
    · split
      · exact yieldsOrderly_error _
      · rename_i hread
        exact h.fields _ _ _ _ (orderly_setField hdone _ (h.value _ _ _ _ hread))

end Steps

/-- All readers of values yield orderly ones. -/
lemma allOrderly (fuel : Nat) : AllOrderly fuel := by
  induction fuel with
  | zero =>
    exact {
      value := fun _ _ => by rw [readValue]; exact yieldsOrderly_error _
      items := fun _ _ _ _ _ => by rw [readItems]; exact yieldsOrderly_error _
      fields := fun _ _ _ _ _ => by rw [readFields]; exact yieldsOrderly_error _
      field := fun _ _ _ _ => by rw [readField]; exact yieldsOrderly_error _ }
  | succ fuel ih => exact ⟨ih.value_succ, ih.items_succ, ih.fields_succ, ih.field_succ⟩

/-- **What is read is orderly.** -/
theorem orderly_of_ofBytes {input : Bytes} {v : Json} (h : ofBytes input = .ok v) : v.Orderly := by
  obtain ⟨rest, hread, -⟩ := (ofBytes_eq_ok_iff le_rfl).1 h
  exact (allOrderly _).value _ _ _ _ hread

end LintPool.Json
