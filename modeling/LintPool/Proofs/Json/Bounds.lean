import Mathlib.Data.Nat.Basic
import Mathlib.Tactic.SplitIfs
import LintPool.Json.Reader

set_option autoImplicit false

/-!
# The calls that reading a value takes

The reader of values is given a bound on its nested calls. Before a call goes deeper, or in it, a
byte is taken, so three calls for each byte of the input are enough: however many more are allowed,
the result is the same, a value or a fault. The bound is never what ends the reading, and a value
that is said to be too deep has too many arrays and objects open.

## Main definitions

* `LintPool.Json.Takes` — what is read leaves less of the input.
* `LintPool.Json.TakesBytes` — all readers of values do so under some bound.
* `LintPool.Json.Enough` — one call more than a bound changes nothing for short inputs.

## Main results

* `LintPool.Json.takesBytes` — all readers of values take a byte at least.
* `LintPool.Json.readValue_bound` — all bounds that are large enough give the same.
* `LintPool.Json.readDocument_eq_ok_iff` — the bound for a whole document is large enough.
* `LintPool.Json.ofBytes_eq_ok_iff` — so a document is read as if there were no bound.
-/

namespace LintPool.Json

/-- What is read from an input, if anything, leaves less of it. -/
def Takes {α : Type} (input : Bytes) (outcome : Except Fault (α × Bytes)) : Prop :=
  ∀ a rest, outcome = .ok (a, rest) → rest.length < input.length

section Takes

variable {α : Type} {input shorter : Bytes} {outcome : Except Fault (α × Bytes)}

/-- A fault leaves nothing to compare. -/
lemma takes_error (f : Fault) : Takes input (.error f : Except Fault (α × Bytes)) :=
  fun _ _ h => nomatch h

/-- What leaves a shorter input takes from a longer one. -/
lemma takes_ok {a : α} {rest : Bytes} (h : rest.length < input.length) :
    Takes input (.ok (a, rest)) := by
  rintro _ _ ⟨⟩
  exact h

/-- What takes from an input takes from a longer one. -/
lemma Takes.mono (h : Takes shorter outcome) (hle : shorter.length ≤ input.length) :
    Takes input outcome :=
  fun a rest hok => lt_of_lt_of_le (h a rest hok) hle

end Takes

/-! ## Blanks and words -/

/-- Blanks that are skipped leave no more. -/
lemma length_skipSpace_le (input : Bytes) : (skipSpace input).length ≤ input.length :=
  (List.dropWhile_suffix _).length_le

/-- What stands behind blanks leaves less. -/
lemma length_lt_of_skipSpace {input rest : Bytes} {b : UInt8} (h : skipSpace input = b :: rest) :
    rest.length < input.length := by
  have hle := length_skipSpace_le input
  rw [h, List.length_cons] at hle
  exact hle

/-- A word leaves no more. -/
lemma length_readWord {word input rest : Bytes} (h : readWord word input = .ok rest) :
    rest.length ≤ input.length := by
  induction word generalizing input with
  | nil => cases h; exact le_rfl
  | cons w word ih =>
    cases input with
    | nil => cases h
    | cons b input =>
      rw [readWord] at h
      split at h
      · exact Nat.le_succ_of_le (ih h)
      · cases h

/-! ## Numbers -/

/-- Digits that are added up leave no more. -/
lemma length_takeDigits (significand added : Nat) (input : Bytes) :
    (takeDigits significand added input).2.2.2.length ≤ input.length := by
  induction input generalizing significand added with
  | nil => exact le_rfl
  | cons b rest ih =>
    rw [takeDigits]
    split
    · exact le_rfl
    · split
      · exact (List.dropWhile_suffix _).length_le
      · exact Nat.le_succ_of_le (ih _ _)

/-- Making a number leaves what follows it. -/
lemma takes_assemble {input : Bytes} (negative : Bool) (significand : Nat) (exponent : Int)
    {rest : Bytes} (h : rest.length < input.length) :
    Takes input (assemble negative significand exponent rest) := by
  unfold assemble
  split
  · exact takes_ok h
  · exact takes_error _

/-- The digits of an exponent leave no more, whether they stay in range or not. -/
lemma length_takeExponent (sum : Nat) (input : Bytes) :
    (∀ e rest, takeExponent sum input = .ok (e, rest) → rest.length ≤ input.length) ∧
      ∀ rest, takeExponent sum input = .error rest → rest.length ≤ input.length := by
  induction input generalizing sum with
  | nil => exact ⟨fun _ _ h => by cases h; exact le_rfl, fun _ h => nomatch h⟩
  | cons b more ih =>
    rw [takeExponent]
    split
    · exact ⟨fun _ _ h => by cases h; exact le_rfl, fun _ h => nomatch h⟩
    · split
      · exact ⟨fun _ _ => nofun, fun _ h => by cases h; exact Nat.le_succ _⟩
      · obtain ⟨hok, herror⟩ := ih _
        exact ⟨fun e rest h => Nat.le_succ_of_le (hok e rest h),
          fun rest h => Nat.le_succ_of_le (herror rest h)⟩

/-- An exponent takes a byte. -/
lemma takes_readExponent (negative : Bool) (significand : Nat) (exponent : Int) (input : Bytes) :
    Takes input (readExponent negative significand exponent input) := by
  unfold readExponent
  dsimp only
  split
  · exact takes_error _
  · rename_i b rest hsign
    -- The sign, if there is one, leaves no more than there was.
    have hlt : rest.length < input.length := by
      split at hsign
      · cases hsign
        simp only [List.length_cons]
        omega
      · cases hsign
        simp only [List.length_cons]
        omega
      · cases hsign
        exact Nat.lt_succ_self _
    split
    · exact takes_error _
    · rename_i d _
      obtain ⟨hok, herror⟩ := length_takeExponent d rest
      split
      · exact takes_assemble _ _ _ (lt_of_le_of_lt (hok _ _ ‹_›) hlt)
      · split_ifs
        · exact takes_error _
        · refine takes_ok (lt_of_le_of_lt ?_ hlt)
          exact Nat.le_trans (List.dropWhile_suffix _).length_le (herror _ ‹_›)

/-- What is behind a point, which is taken, leaves no more. -/
lemma takes_readFraction (negative : Bool) (significand : Nat) (exponent : Int) (point : UInt8)
    (input : Bytes) :
    Takes (point :: input) (readFraction negative significand exponent input) := by
  have hle := length_takeDigits significand 0 input
  unfold readFraction
  generalize takeDigits significand 0 input = digits at hle ⊢
  obtain ⟨sum, added, spare, rest⟩ := digits
  dsimp only at hle ⊢
  split
  · exact takes_error _
  · split
    · rename_i b more
      split
      · exact (takes_readExponent _ _ _ _).mono (by simp only [List.length_cons] at hle ⊢; omega)
      · exact takes_assemble _ _ _ (Nat.lt_succ_of_le hle)
    · exact takes_assemble _ _ _ (Nat.lt_succ_of_le hle)

/-- What is behind the whole digits of a number leaves no more. -/
lemma takes_readNumberTail (negative : Bool) (significand spare : Nat) (digit : UInt8)
    (input : Bytes) :
    Takes (digit :: input) (readNumberTail negative significand spare input) := by
  have hlt : input.length < (digit :: input).length := Nat.lt_succ_self _
  unfold readNumberTail
  split
  · rename_i b rest
    split
    · exact (takes_readFraction _ _ _ b rest).mono (Nat.le_succ _)
    · split
      · exact (takes_readExponent _ _ _ rest).mono (by simp only [List.length_cons]; omega)
      · split
        · exact takes_ok hlt
        · exact takes_assemble _ _ _ hlt
  · split
    · exact takes_ok hlt
    · exact takes_assemble _ _ _ hlt

/-- A number takes a byte. -/
lemma takes_readNumber (negative : Bool) (input : Bytes) :
    Takes input (readNumber negative input) := by
  unfold readNumber
  split
  · exact takes_error _
  · rename_i b rest
    split
    · exact takes_error _
    · split
      · split
        · exact takes_error _
        · exact takes_readNumberTail _ _ _ b _
      · exact takes_readNumberTail _ _ _ b _
    · rename_i d _ _
      have hle := length_takeDigits d 0 rest
      generalize takeDigits d 0 rest = digits at hle ⊢
      obtain ⟨sum, added, spare, more⟩ := digits
      exact (takes_readNumberTail _ _ _ b more).mono (Nat.succ_le_succ hle)

/-! ## Texts -/

/-- A text takes its closing quote. -/
lemma takes_readTextFrom (done input : Bytes) : Takes input (readTextFrom done input) := by
  fun_induction readTextFrom done input with
  | case1 => exact takes_error _
  | case2 | case3 =>
    split
    · exact takes_ok (Nat.lt_succ_self _)
    · exact takes_error _
  | case4 =>
    rename_i hshorter _ ih
    exact ih.mono (Nat.le_succ_of_le (Nat.le_of_lt hshorter))
  | case5 | case6 => exact takes_error _
  | case7 =>
    rename_i ih
    exact ih.mono (Nat.le_succ _)

/-! ## Values -/

/-- A colon leaves less. -/
lemma length_readColon {input rest : Bytes} (h : readColon input = .ok rest) :
    rest.length < input.length := by
  unfold readColon at h
  split at h
  · cases h
  · split at h
    · cases h
      exact length_lt_of_skipSpace ‹_›
    · cases h

/-- Under a bound on the calls, every reader of values takes a byte. -/
structure TakesBytes (fuel : Nat) : Prop where
  /-- A value does. -/
  value : ∀ depth input, Takes input (readValue fuel depth input)
  /-- The items of an array do. -/
  items : ∀ depth first done input, Takes input (readItems fuel depth first done input)
  /-- The fields of an object do. -/
  fields : ∀ depth first done input, Takes input (readFields fuel depth first done input)
  /-- A field and those after it do. -/
  field : ∀ depth done input, Takes input (readField fuel depth done input)

section Steps

variable {fuel : Nat}

/-- A word behind a byte that is taken leaves less. -/
lemma takes_readWord (v : Json) (b : UInt8) (word rest : Bytes) :
    Takes (b :: rest) (do let rest ← readWord word rest; return (v, rest)) := by
  cases hword : readWord word rest with
  | error f => exact takes_error f
  | ok more => exact takes_ok (Nat.lt_succ_of_le (length_readWord hword))

/-- If the readers take a byte under a bound, a value does under the next one. -/
lemma TakesBytes.value_succ (h : TakesBytes fuel) (depth : Nat) (input : Bytes) :
    Takes input (readValue (fuel + 1) depth input) := by
  have hskip := length_skipSpace_le input
  rw [readValue]
  split
  · exact takes_error _
  · rename_i b rest hrest
    rw [hrest] at hskip
    refine Takes.mono ?_ hskip
    split_ifs
    · exact takes_readWord _ _ _ _
    · exact takes_readWord _ _ _ _
    · exact takes_readWord _ _ _ _
    · exact (takes_readNumber _ _).mono (Nat.le_succ _)
    · exact takes_readNumber _ _
    · have htext := takes_readTextFrom [] rest
      unfold readText
      cases hread : readTextFrom [] rest with
      | error f => exact takes_error f
      | ok read => exact takes_ok (Nat.lt_succ_of_lt (htext _ _ hread))
    · split
      · exact takes_error _
      · exact (h.items _ _ _ _).mono (Nat.le_succ _)
    · split
      · exact takes_error _
      · exact (h.fields _ _ _ _).mono (Nat.le_succ _)
    · exact takes_error _

/-- So do the items of an array. -/
lemma TakesBytes.items_succ (h : TakesBytes fuel) (depth : Nat) (first : Bool) (done : List Json)
    (input : Bytes) : Takes input (readItems (fuel + 1) depth first done input) := by
  rw [readItems]
  split
  · exact takes_error _
  · rename_i b rest hrest
    have hlt := length_lt_of_skipSpace hrest
    split_ifs
    · exact takes_ok hlt
    · split
      · exact takes_error _
      · rename_i hread
        have hvalue := h.value _ _ _ _ hread
        exact (h.items _ _ _ _).mono (by simp only [List.length_cons] at hvalue; omega)
    · split
      · exact takes_error _
      · rename_i c more hmore
        have hless := length_lt_of_skipSpace hmore
        split_ifs
        · exact takes_error _
        · split
          · exact takes_error _
          · rename_i hread
            have hvalue := h.value _ _ _ _ hread
            exact (h.items _ _ _ _).mono (by simp only [List.length_cons] at hvalue; omega)
    · exact takes_error _

/-- So do the fields of an object. -/
lemma TakesBytes.fields_succ (h : TakesBytes fuel) (depth : Nat) (first : Bool)
    (done : List (String × Json)) (input : Bytes) :
    Takes input (readFields (fuel + 1) depth first done input) := by
  rw [readFields]
  split
  · exact takes_error _
  · rename_i b rest hrest
    have hlt := length_lt_of_skipSpace hrest
    split_ifs
    · exact takes_ok hlt
    · exact (h.field _ _ _).mono (Nat.le_of_lt hlt)
    · exact takes_error _
    · split
      · exact takes_error _
      · rename_i c more hmore
        have hless := length_lt_of_skipSpace hmore
        split_ifs
        · exact (h.field _ _ _).mono (Nat.le_of_lt (Nat.lt_trans hless hlt))
        · exact takes_error _
        · exact takes_error _
    · exact takes_error _

/-- So do a field and those after it. -/
lemma TakesBytes.field_succ (h : TakesBytes fuel) (depth : Nat) (done : List (String × Json))
    (input : Bytes) : Takes input (readField (fuel + 1) depth done input) := by
  rw [readField]
  split
  · exact takes_error _
  · rename_i hkey
    have hkey := takes_readTextFrom _ _ _ _ hkey
    split
    · exact takes_error _
    · rename_i hcolon
      have hcolon := length_readColon hcolon
      split
      · exact takes_error _
      · rename_i hread
        have hvalue := h.value _ _ _ _ hread
        exact (h.fields _ _ _ _).mono (by omega)

end Steps

/-- **Every reader of values takes a byte**, whatever the bound. -/
lemma takesBytes (fuel : Nat) : TakesBytes fuel := by
  induction fuel with
  | zero =>
    exact {
      value := fun _ _ => by rw [readValue]; exact takes_error _
      items := fun _ _ _ _ => by rw [readItems]; exact takes_error _
      fields := fun _ _ _ _ => by rw [readFields]; exact takes_error _
      field := fun _ _ _ => by rw [readField]; exact takes_error _ }
  | succ fuel ih => exact ⟨ih.value_succ, ih.items_succ, ih.fields_succ, ih.field_succ⟩

/-! ## Bounds -/

/-- One call more than a bound changes nothing for the inputs that are short enough for it. -/
structure Enough (fuel : Nat) : Prop where
  /-- A value takes no more than three calls for each byte, and one. -/
  value : ∀ depth input, 3 * input.length + 1 ≤ fuel →
    readValue (fuel + 1) depth input = readValue fuel depth input
  /-- The items of an array take one more. -/
  items : ∀ depth first done input, 3 * input.length + 2 ≤ fuel →
    readItems (fuel + 1) depth first done input = readItems fuel depth first done input
  /-- So do the fields of an object. -/
  fields : ∀ depth first done input, 3 * input.length + 2 ≤ fuel →
    readFields (fuel + 1) depth first done input = readFields fuel depth first done input
  /-- A field and those after it take no more than a value. -/
  field : ∀ depth done input, 3 * input.length + 1 ≤ fuel →
    readField (fuel + 1) depth done input = readField fuel depth done input

section Steps

variable {fuel : Nat}

/-- If a bound is enough, the next one is for a value. -/
lemma Enough.value_succ (h : Enough fuel) (depth : Nat) (input : Bytes)
    (hfuel : 3 * input.length + 1 ≤ fuel + 1) :
    readValue (fuel + 1 + 1) depth input = readValue (fuel + 1) depth input := by
  rw [readValue, readValue]
  split
  · rfl
  · rename_i b rest hrest
    have hlt := length_lt_of_skipSpace hrest
    -- Only an array or an object goes on with fewer calls.
    split_ifs <;> try rfl
    · cases depth with
      | zero => rfl
      | succ depth => exact h.items _ _ _ _ (by omega)
    · cases depth with
      | zero => rfl
      | succ depth => exact h.fields _ _ _ _ (by omega)

/-- The items behind a value that was read come to the same. -/
lemma Enough.items_behind (h : Enough fuel) {depth : Nat} {done : List Json} {v : Json}
    {input rest : Bytes} (hread : readValue fuel depth input = .ok (v, rest))
    (hfuel : 3 * input.length + 1 ≤ fuel) :
    readItems (fuel + 1) depth false (v :: done) rest =
      readItems fuel depth false (v :: done) rest := by
  have hlt := (takesBytes fuel).value _ _ _ _ hread
  exact h.items _ _ _ _ (by omega)

/-- It is for the items of an array. -/
lemma Enough.items_succ (h : Enough fuel) (depth : Nat) (first : Bool) (done : List Json)
    (input : Bytes) (hfuel : 3 * input.length + 2 ≤ fuel + 1) :
    readItems (fuel + 1 + 1) depth first done input =
      readItems (fuel + 1) depth first done input := by
  have hskip := length_skipSpace_le input
  rw [readItems, readItems]
  split
  · rfl
  · rename_i b rest hrest
    have hlt := length_lt_of_skipSpace hrest
    rw [hrest] at hskip
    split_ifs
    · rfl
    · have hshort : 3 * (b :: rest).length + 1 ≤ fuel := by omega
      rw [h.value depth (b :: rest) hshort]
      split
      · rfl
      · exact h.items_behind ‹_› hshort
    · split
      · rfl
      · rename_i c more hmore
        have hless := length_lt_of_skipSpace hmore
        split_ifs
        · rfl
        · have hshort : 3 * (c :: more).length + 1 ≤ fuel := by
            rw [List.length_cons]
            omega
          rw [h.value depth (c :: more) hshort]
          split
          · rfl
          · exact h.items_behind ‹_› hshort
    · rfl

/-- It is for the fields of an object. -/
lemma Enough.fields_succ (h : Enough fuel) (depth : Nat) (first : Bool)
    (done : List (String × Json)) (input : Bytes) (hfuel : 3 * input.length + 2 ≤ fuel + 1) :
    readFields (fuel + 1 + 1) depth first done input =
      readFields (fuel + 1) depth first done input := by
  rw [readFields, readFields]
  split
  · rfl
  · rename_i b rest hrest
    have hlt := length_lt_of_skipSpace hrest
    split_ifs
    · rfl
    · exact h.field _ _ _ (by omega)
    · rfl
    · split
      · rfl
      · rename_i c more hmore
        have hless := length_lt_of_skipSpace hmore
        split_ifs
        · exact h.field _ _ _ (by omega)
        · rfl
        · rfl
    · rfl

/-- It is for a field and those after it. -/
lemma Enough.field_succ (h : Enough fuel) (depth : Nat) (done : List (String × Json))
    (input : Bytes) (hfuel : 3 * input.length + 1 ≤ fuel + 1) :
    readField (fuel + 1 + 1) depth done input = readField (fuel + 1) depth done input := by
  rw [readField, readField]
  split
  · rfl
  · rename_i hkey
    have hkey := takes_readTextFrom _ _ _ _ hkey
    split
    · rfl
    · rename_i rest hcolon
      have hcolon := length_readColon hcolon
      rw [h.value depth rest (by omega)]
      split
      · rfl
      · rename_i hread
        have hlt := (takesBytes fuel).value _ _ _ _ hread
        exact h.fields _ _ _ _ (by omega)

end Steps

/-- **Every bound is enough** for the inputs that are short enough for it. -/
lemma enough (fuel : Nat) : Enough fuel := by
  induction fuel with
  | zero =>
    exact {
      value := fun _ _ h => absurd h (Nat.not_succ_le_zero _)
      items := fun _ _ _ _ h => absurd h (Nat.not_succ_le_zero _)
      fields := fun _ _ _ _ h => absurd h (Nat.not_succ_le_zero _)
      field := fun _ _ _ h => absurd h (Nat.not_succ_le_zero _) }
  | succ fuel ih => exact ⟨ih.value_succ, ih.items_succ, ih.fields_succ, ih.field_succ⟩

/-- **All bounds that are large enough give the same**: a value that is read, or a fault, does not
come from the bound. -/
theorem readValue_bound {fuel : Nat} (depth : Nat) {input : Bytes}
    (hfuel : 3 * input.length + 1 ≤ fuel) :
    readValue fuel depth input = readValue (3 * input.length + 1) depth input := by
  induction fuel, hfuel using Nat.le_induction with
  | base => rfl
  | succ fuel hle ih => rw [(enough fuel).value depth input hle, ih]

/-- The bound for a whole document is large enough: with any larger one the same value is read. -/
theorem readDocument_eq_ok_iff {input : Bytes} {v : Json} {fuel : Nat}
    (hfuel : 3 * input.length + 1 ≤ fuel) :
    readDocument input = .ok v ↔
      ∃ rest, readValue fuel maxDepth input = .ok (v, rest) ∧ skipSpace rest = [] := by
  rw [readDocument, readValue_bound maxDepth hfuel, readValue_bound maxDepth (by omega)]
  constructor
  · intro h
    split at h
    · cases h
    · split at h
      · cases h
        exact ⟨_, ‹_›, ‹_›⟩
      · cases h
  · rintro ⟨rest, hread, hblank⟩
    simp only [hread, hblank]

/-- **A document is read as if no bound were set**: under every bound that is large enough it is
one value, and blanks. -/
theorem ofBytes_eq_ok_iff {input : Bytes} {v : Json} {fuel : Nat}
    (hfuel : 3 * input.length + 1 ≤ fuel) :
    ofBytes input = .ok v ↔
      ∃ rest, readValue fuel maxDepth input = .ok (v, rest) ∧ skipSpace rest = [] := by
  rw [← readDocument_eq_ok_iff hfuel, ofBytes]
  cases readDocument input with
  | ok v' => simp only [Except.ok.injEq]
  | error f => exact iff_of_false nofun nofun

/-- Nothing is read from nothing. -/
lemma ne_nil_of_ofBytes {input : Bytes} {v : Json} (h : ofBytes input = .ok v) : input ≠ [] := by
  obtain ⟨rest, hread, -⟩ := (ofBytes_eq_ok_iff le_rfl).1 h
  have hless := (takesBytes _).value _ _ _ _ hread
  exact List.ne_nil_of_length_pos (Nat.zero_lt_of_lt hless)

end LintPool.Json
