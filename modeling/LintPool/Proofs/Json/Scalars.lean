import Mathlib.Tactic.IntervalCases
import LintPool.Json.Printer
import LintPool.Json.Reader
import LintPool.Proofs.Text.Utf8

set_option autoImplicit false

/-!
# Numbers and texts that are written and read

An integer that is written in decimal digits is read back, if it is in the range of integers and
what follows it does not go on with the number. A text that is written between quotes is read back
whatever follows it, its escapes taken back to the characters that they stand for.

## Main definitions

* `LintPool.Json.EndsNumber` — what may follow a number.

## Main results

* `LintPool.Json.readNumber_toDigits` — decimal digits are read as their value.
* `LintPool.Json.readText_quote` — a text between quotes is read as that text.
-/

namespace LintPool.Json

open Text (spell)

/-! ## Numbers -/

/-- The input does not go on with the number before it. -/
def EndsNumber (input : Bytes) : Prop :=
  ∀ b ∈ input.head?, isDigit b = false ∧ b ≠ 0x2E ∧ isExponentMark b = false

/-- What is no digit has no value. -/
lemma digit?_eq_none {b : UInt8} (h : isDigit b = false) : digit? b = none := by
  rw [digit?, if_neg]
  simpa [isDigit] using h

/-- The digits stand in a row. -/
lemma toNat_of_isDigit {c : Char} (h : c.isDigit = true) : 48 ≤ c.toNat ∧ c.toNat ≤ 57 := by
  simpa [Char.isDigit, UInt32.le_iff_toNat_le] using h

/-- A digit is one byte, and has the value that it has in a number. -/
lemma digit?_ofNat {c : Char} (h : c.isDigit = true) :
    String.utf8EncodeChar c = [UInt8.ofNat c.toNat] ∧
      isDigit (UInt8.ofNat c.toNat) = true ∧
      digit? (UInt8.ofNat c.toNat) = some (c.toNat - '0'.toNat) := by
  have hrange := toNat_of_isDigit h
  have hbyte : (UInt8.ofNat c.toNat).toNat = c.toNat :=
    UInt8.toNat_ofNat_of_lt' (lt_of_le_of_lt hrange.2 (by decide))
  have hdigit : (0x30 : UInt8) ≤ UInt8.ofNat c.toNat ∧ UInt8.ofNat c.toNat ≤ 0x39 := by
    simp only [UInt8.le_iff_toNat_le, hbyte]
    exact hrange
  refine ⟨Text.utf8EncodeChar_of_lt (by omega), by simpa [isDigit] using hdigit, ?_⟩
  rw [digit?, if_pos hdigit, hbyte]
  rfl

/-- Digits that are added onto a number make it no smaller. -/
lemma le_ofDigitChars (ds : List Char) (n : Nat) : n ≤ Nat.ofDigitChars 10 ds n := by
  rw [Nat.ofDigitChars_eq_ofDigitChars_zero]
  exact le_trans (Nat.le_mul_of_pos_left n (Nat.pow_pos (by decide))) (Nat.le_add_right _ _)

/-- Digits that fit are all added up. -/
lemma takeDigits_spell {ds : List Char} (hds : ∀ c ∈ ds, c.isDigit = true) {significand : Nat}
    (added : Nat) {rest : Bytes} (hfit : Nat.ofDigitChars 10 ds significand ≤ maxWord64)
    (hrest : EndsNumber rest) :
    takeDigits significand added (spell ds ++ rest) =
      (Nat.ofDigitChars 10 ds significand, added + ds.length, 0, rest) := by
  induction ds generalizing significand added with
  | nil =>
    cases rest with
    | nil => rfl
    | cons b rest =>
      have hb := digit?_eq_none (hrest b rfl).1
      simp [takeDigits, hb]
  | cons c ds ih =>
    obtain ⟨hbytes, -, hdigit⟩ := digit?_ofNat (hds c List.mem_cons_self)
    rw [Nat.ofDigitChars_cons, Nat.mul_comm] at hfit ⊢
    have hle : significand * 10 + (c.toNat - '0'.toNat) ≤ maxWord64 :=
      (le_ofDigitChars ds _).trans hfit
    have hlater := ih (fun d hd => hds d (List.mem_cons_of_mem c hd)) (added + 1) hfit
    rw [Text.spell_cons, hbytes, List.cons_append, List.nil_append, List.cons_append, takeDigits,
      hdigit]
    simp only [if_neg (Nat.not_lt.2 hle), hlater, List.length_cons]
    congr 2
    omega

/-- A positive number starts with a digit other than zero. -/
lemma toDigits_eq_cons {n : Nat} (h : 0 < n) :
    ∃ c cs, Nat.toDigits 10 n = c :: cs ∧ 0 < c.toNat - '0'.toNat := by
  induction n using Nat.strongRecOn with
  | ind n ih =>
    rw [Nat.toDigits_eq_if (by decide)]
    split
    · rename_i hsmall
      refine ⟨n.digitChar, [], rfl, ?_⟩
      rw [Nat.toNat_digitChar_of_lt_ten hsmall]
      simpa using h
    · obtain ⟨c, cs, hdigits, hc⟩ := ih (n / 10) (by omega) (by omega)
      exact ⟨c, cs ++ [(n % 10).digitChar], by rw [hdigits, List.cons_append], hc⟩

/-- After the digits, a number that fits is an integer. -/
lemma readNumberTail_of_endsNumber {negative : Bool} {n : Nat} {rest : Bytes}
    (hrest : EndsNumber rest) :
    readNumberTail negative n 0 rest = .ok (integerOf negative n, rest) := by
  cases rest with
  | nil => simp [readNumberTail]
  | cons b rest =>
    obtain ⟨-, hpoint, hmark⟩ := hrest b rfl
    simp [readNumberTail, hpoint, hmark]

/-- **Decimal digits are read as their value**, if that is a number of 64 bits. -/
theorem readNumber_toDigits {negative : Bool} {n : Nat} {rest : Bytes} (hfit : n ≤ maxWord64)
    (hrest : EndsNumber rest) :
    readNumber negative (spell (Nat.toDigits 10 n) ++ rest) =
      .ok (integerOf negative n, rest) := by
  rcases Nat.eq_zero_or_pos n with rfl | hpos
  · have hzero : spell (Nat.toDigits 10 0) = [0x30] := rfl
    have hvalue : digit? 0x30 = some 0 := rfl
    rw [hzero, List.cons_append, List.nil_append, readNumber.eq_def]
    cases rest with
    | nil => simpa only [hvalue] using readNumberTail_of_endsNumber hrest
    | cons b rest =>
      simp only [hvalue, (hrest b rfl).1, Bool.false_eq_true, if_false]
      exact readNumberTail_of_endsNumber hrest
  · obtain ⟨c, cs, hdigits, hc⟩ := toDigits_eq_cons hpos
    have hisDigit : ∀ d ∈ c :: cs, d.isDigit = true := by
      intro d hd
      rw [← hdigits] at hd
      exact Nat.isDigit_of_mem_toDigits (by decide) (by decide) hd
    have hvalue : Nat.ofDigitChars 10 cs (c.toNat - '0'.toNat) = n := by
      have h : Nat.ofDigitChars 10 (Nat.toDigits 10 n) 0 = n := Nat.ofDigitChars_ten_toDigits
      rwa [hdigits, Nat.ofDigitChars_cons, Nat.mul_zero, Nat.zero_add] at h
    obtain ⟨hbytes, -, hfirst⟩ := digit?_ofNat (hisDigit c List.mem_cons_self)
    have htake := takeDigits_spell (fun d hd => hisDigit d (List.mem_cons_of_mem c hd)) 0
      (hvalue.trans_le hfit) hrest
    rw [hdigits, Text.spell_cons, hbytes, List.cons_append, List.nil_append, List.cons_append,
      readNumber.eq_def]
    simp only [hfirst]
    split
    · rename_i hnone
      cases hnone
    · rename_i hzero
      exact absurd (Option.some.inj hzero) hc.ne'
    · rename_i hsome
      cases hsome
      rw [htake, hvalue]
      exact readNumberTail_of_endsNumber hrest

/-- The integers that stay integers are made from their sign and their digits. -/
lemma integerOf_natAbs {i : Int} (hlow : -2 ^ 63 ≤ i) : integerOf (i < 0) i.natAbs = .int i := by
  rw [integerOf]
  rcases lt_or_ge i 0 with hneg | hpos
  · have hfits : ¬ (i.natAbs = 0 ∨ Nat.pow 2 63 < i.natAbs) := by
      have hpow : Nat.pow 2 63 = 9223372036854775808 := rfl
      omega
    simp only [hneg, decide_true, Bool.not_true, Bool.false_eq_true, if_false, Bool.or_eq_true,
      decide_eq_true_eq, hfits]
    congr 1
    omega
  · simp only [not_lt.2 hpos, decide_false, Bool.not_false, if_true]
    congr 1
    omega

/-! ## Texts -/

/-- A byte that stands for itself in a text. -/
def standsForItself (b : UInt8) : Bool :=
  b != 0x22 && b != 0x5C && 0x20 ≤ b

/-- Bytes that stand for themselves are taken as they are. -/
lemma readTextFrom_append {bytes : Bytes} (h : ∀ b ∈ bytes, standsForItself b = true)
    (done more : Bytes) :
    readTextFrom done (bytes ++ more) = readTextFrom (bytes.reverse ++ done) more := by
  induction bytes generalizing done with
  | nil => rfl
  | cons b bytes ih =>
    have hb := h b List.mem_cons_self
    simp only [standsForItself, Bool.and_eq_true, bne_iff_ne, ne_eq, decide_eq_true_eq] at hb
    obtain ⟨⟨hquote, hslash⟩, hcontrol⟩ := hb
    rw [List.cons_append, readTextFrom, if_neg hquote, if_neg hslash,
      if_neg (UInt8.not_lt.2 hcontrol), ih (fun b' hb' => h b' (List.mem_cons_of_mem b hb')),
      List.reverse_cons, List.append_assoc]
    rfl

/-- An escape is taken as the character that it stands for. -/
lemma readTextFrom_escape {c : Char} {input rest : Bytes} (h : readEscape input = .ok (c, rest))
    (done : Bytes) :
    readTextFrom done (0x5C :: input) =
      readTextFrom ((String.utf8EncodeChar c).reverse ++ done) rest := by
  rw [readTextFrom, if_neg (by decide), if_pos rfl]
  split
  · rename_i hread
    cases h.symm.trans hread
    rfl
  · rename_i hread
    cases h.symm.trans hread

/-- A control character is read back from its digits. -/
lemma readEscape_control {c : Char} (h : c.toNat < 0x20) (more : Bytes) :
    readEscape (spell ['u', '0', '0', Text.hexDigit (c.toNat / 16), Text.hexDigit (c.toNat % 16)] ++
      more) = .ok (c, more) := by
  have hc : Char.ofNat c.toNat = c := Char.ofNat_toNat c
  generalize c.toNat = n at h hc
  subst hc
  interval_cases n <;> rfl

/-- A character is read back from what it is written as. -/
lemma readTextFrom_spell_escape (c : Char) (done more : Bytes) :
    readTextFrom done (spell (escape c) ++ more) =
      readTextFrom ((String.utf8EncodeChar c).reverse ++ done) more := by
  rw [escape]
  split_ifs with h₁ h₂ h₃ h₄ h₅ h₆ h₇ h₈
  · subst h₁; exact readTextFrom_escape rfl done
  · subst h₂; exact readTextFrom_escape rfl done
  · subst h₃; exact readTextFrom_escape rfl done
  · subst h₄; exact readTextFrom_escape rfl done
  · subst h₅; exact readTextFrom_escape rfl done
  · subst h₆; exact readTextFrom_escape rfl done
  · subst h₇; exact readTextFrom_escape rfl done
  · exact readTextFrom_escape (readEscape_control h₈ more) done
  · rw [Text.spell_cons, Text.spell_nil, List.append_nil]
    refine readTextFrom_append (fun b hb => ?_) done more
    have hne : ∀ d : Char, c ≠ d → c.toNat ≠ d.toNat :=
      fun d hcd hnat => hcd (Char.toNat_inj.1 hnat)
    have hquote := hne _ h₁
    have hslash := hne _ h₂
    simp only [standsForItself, Bool.and_eq_true, bne_iff_ne, ne_eq, decide_eq_true_eq,
      ← UInt8.toNat_inj, UInt8.le_iff_toNat_le, UInt8.reduceToNat]
    rcases Text.mem_utf8EncodeChar hb with ⟨hsmall, hbytes⟩ | hlarge
    · rw [hbytes, List.mem_singleton] at hb
      have hbyte : b.toNat = c.toNat := by
        rw [hb, UInt8.toNat_ofNat_of_lt' (lt_trans hsmall (by decide))]
      refine ⟨⟨fun h => hquote (hbyte.symm.trans h), fun h => hslash (hbyte.symm.trans h)⟩, ?_⟩
      omega
    · omega

/-- **A text between quotes is read as that text**, whatever follows it. -/
theorem readText_quote (s : String) (more : Bytes) :
    readText (spell (s.toList.flatMap escape) ++ 0x22 :: more) = .ok (s, more) := by
  have hread : ∀ (cs : List Char) (done : Bytes),
      readTextFrom done (spell (cs.flatMap escape) ++ 0x22 :: more) =
        readTextFrom ((spell cs).reverse ++ done) (0x22 :: more) := by
    intro cs
    induction cs with
    | nil => exact fun done => rfl
    | cons c cs ih =>
      intro done
      rw [List.flatMap_cons, Text.spell_append, List.append_assoc, readTextFrom_spell_escape, ih,
        Text.spell_cons, List.reverse_append, List.append_assoc]
  rw [readText, hread, readTextFrom, if_pos rfl, List.append_nil, List.reverse_reverse,
    ← Text.encode_ofList, String.ofList_toList, Text.decode_encode]

end LintPool.Json
