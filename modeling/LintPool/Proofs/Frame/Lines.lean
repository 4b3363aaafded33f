import Mathlib.Data.List.TakeWhile
import LintPool.Frame.Grammar
import LintPool.Proofs.Json.Scalars

set_option autoImplicit false

/-!
# What the lines of a header say

The lines of a header and what they say are described here without a reader: a line is what stands
before a line feed, a name is compared without the blanks around it and without the case of its
letters, and a length is the value of a row of digits. The reader is shown to say the same.

## Main definitions

* `LintPool.Text.Trimmed` — a text and what is left of it without the blanks at its ends.
* `LintPool.FirstLine` — the first line of an input.
* `LintPool.IsLength` — the length that a text is written for.
* `LintPool.LineSays` — what a line of a header says.

## Main results

* `LintPool.firstLine_iff` — the line that is taken is the first one.
* `LintPool.parseLength_eq_ok_iff` — the texts that are read as a length.
* `LintPool.headerLine_eq_iff` — what is read from a line is what it says.
-/

namespace LintPool.Text

/-! ## Blanks at the ends -/

/-- `core` is `whole` without the blanks at its two ends. -/
structure Trimmed (whole core : List Char) : Prop where
  /-- What is left out is blank, and stands at the ends. -/
  around : ∃ left right, whole = left ++ core ++ right ∧ (∀ c ∈ left, isBlank c = true) ∧
    ∀ c ∈ right, isBlank c = true
  /-- No blank is left at the front. -/
  front : ∀ c ∈ core.head?, isBlank c = false
  /-- No blank is left at the back. -/
  back : ∀ c ∈ core.getLast?, isBlank c = false

/-- Blanks at the front do not count. -/
lemma trimChars_append_left {left : List Char} (h : ∀ c ∈ left, isBlank c = true)
    (cs : List Char) : trimChars (left ++ cs) = trimChars cs := by
  rw [trimChars, trimChars, List.dropWhile_append_of_pos h]

/-- Blanks at the back do not count. -/
lemma trimChars_append_right {right : List Char} (h : ∀ c ∈ right, isBlank c = true)
    (cs : List Char) : trimChars (cs ++ right) = trimChars cs := by
  have hright : right.dropWhile isBlank = [] := List.dropWhile_eq_nil_iff.2 h
  rw [trimChars, trimChars, List.dropWhile_append]
  split
  · rename_i hcs
    rw [List.isEmpty_iff.1 hcs, hright]
  · rw [List.reverse_append, List.dropWhile_append_of_pos fun c hc => h c (List.mem_reverse.1 hc)]

/-- Without blanks at its ends, a text stays as it is. -/
lemma trimChars_eq_self {cs : List Char} (hfront : ∀ c ∈ cs.head?, isBlank c = false)
    (hback : ∀ c ∈ cs.getLast?, isBlank c = false) : trimChars cs = cs := by
  have hdrop : ∀ ds : List Char, (∀ c ∈ ds.head?, isBlank c = false) →
      ds.dropWhile isBlank = ds := by
    intro ds h
    cases ds with
    | nil => rfl
    | cons c ds => rw [List.dropWhile_cons_of_neg (by simp [h c rfl])]
  rw [trimChars, hdrop cs hfront, hdrop cs.reverse (by rwa [List.head?_reverse]),
    List.reverse_reverse]

/-- A text is blanks and what starts with none. -/
lemma exists_front (cs : List Char) : ∃ left core, cs = left ++ core ∧
    (∀ c ∈ left, isBlank c = true) ∧ ∀ c ∈ core.head?, isBlank c = false := by
  refine ⟨cs.takeWhile isBlank, cs.dropWhile isBlank, List.takeWhile_append_dropWhile.symm,
    fun c hc => List.mem_takeWhile_imp hc, fun c hc => ?_⟩
  have hnot := List.head?_dropWhile_not isBlank cs
  rwa [Option.mem_def.1 hc] at hnot

/-- A text is what ends with no blank, and blanks. -/
lemma exists_back (cs : List Char) : ∃ core right, cs = core ++ right ∧
    (∀ c ∈ right, isBlank c = true) ∧ ∀ c ∈ core.getLast?, isBlank c = false := by
  obtain ⟨left, core, hcs, hleft, hcore⟩ := exists_front cs.reverse
  refine ⟨core.reverse, left.reverse, ?_, fun c hc => hleft c (List.mem_reverse.1 hc), ?_⟩
  · rw [← List.reverse_append, ← hcs, List.reverse_reverse]
  · rwa [List.getLast?_reverse]

/-- **Trimming leaves out the blanks at the two ends**, and nothing else. -/
theorem trimmed_iff {whole core : List Char} : Trimmed whole core ↔ trimChars whole = core := by
  constructor
  · rintro ⟨⟨left, right, rfl, hleft, hright⟩, hfront, hback⟩
    rw [trimChars_append_right hright, trimChars_append_left hleft,
      trimChars_eq_self hfront hback]
  · rintro rfl
    obtain ⟨left, more, rfl, hleft, hfront⟩ := exists_front whole
    obtain ⟨core, right, rfl, hright, hback⟩ := exists_back more
    have hcore : trimChars (left ++ (core ++ right)) = core := by
      rw [trimChars_append_left hleft, trimChars_append_right hright, trimChars_eq_self _ hback]
      intro c hc
      cases core with
      | nil => cases hc
      | cons d core => exact hfront c hc
    rw [hcore]
    refine ⟨⟨left, right, by rw [List.append_assoc], hleft, hright⟩, fun c hc => ?_, hback⟩
    cases core with
    | nil => cases hc
    | cons d core => exact hfront c hc

/-- Nothing is left of a text just if it is blank. -/
lemma trimChars_eq_nil_iff {cs : List Char} :
    trimChars cs = [] ↔ ∀ c ∈ cs, isBlank c = true := by
  constructor
  · intro h
    obtain ⟨⟨left, right, rfl, hleft, hright⟩, -, -⟩ := trimmed_iff.2 h
    intro c hc
    rw [List.append_nil] at hc
    exact (List.mem_append.1 hc).elim (hleft c) (hright c)
  · intro h
    rw [← List.append_nil cs, trimChars_append_left h]
    rfl

end LintPool.Text

namespace LintPool

open Text (Trimmed trimChars isBlank)

/-! ## Lines -/

/-- `line` is the first line of an input and `rest` is what follows it: a line goes up to its line
feed, and the last one may end without. -/
inductive FirstLine : Bytes → Bytes → Bytes → Prop
  | ended {text rest : Bytes} (h : 0x0A ∉ text) :
    FirstLine (text ++ 0x0A :: rest) (text ++ [0x0A]) rest
  | unended {text : Bytes} (hsome : text ≠ []) (h : 0x0A ∉ text) : FirstLine text text []

/-- A line is taken with its line feed. -/
lemma takeLine_ended {text : Bytes} (h : 0x0A ∉ text) (rest : Bytes) :
    takeLine (text ++ 0x0A :: rest) = (text ++ [0x0A], rest) := by
  induction text with
  | nil => rfl
  | cons b text ih =>
    obtain ⟨hb, htext⟩ := not_or.1 (mt List.mem_cons.2 h)
    rw [List.cons_append, takeLine, if_neg (Ne.symm hb), ih htext]
    rfl

/-- A last line without a line feed is taken whole. -/
lemma takeLine_unended {text : Bytes} (h : 0x0A ∉ text) : takeLine text = (text, []) := by
  induction text with
  | nil => rfl
  | cons b text ih =>
    obtain ⟨hb, htext⟩ := not_or.1 (mt List.mem_cons.2 h)
    rw [takeLine, if_neg (Ne.symm hb), ih htext]

/-- **The line that is taken is the first one**; there is one just if the input goes on. -/
theorem firstLine_iff {input line rest : Bytes} :
    FirstLine input line rest ↔ input ≠ [] ∧ takeLine input = (line, rest) := by
  constructor
  · intro h
    cases h with
    | ended h => exact ⟨by simp, takeLine_ended h rest⟩
    | unended hsome h => exact ⟨hsome, takeLine_unended h⟩
  · rintro ⟨hsome, htake⟩
    by_cases hfeed : 0x0A ∈ input
    · obtain ⟨text, more, rfl, htext⟩ := List.eq_append_cons_of_mem hfeed
      cases (takeLine_ended htext more).symm.trans htake
      exact .ended htext
    · cases (takeLine_unended hfeed).symm.trans htake
      exact .unended hsome hfeed

/-! ## Lengths -/

/-- A text is written for the length `n`: decimal digits, after an optional plus sign, whose value
fits 64 bits. -/
def IsLength (text : List Char) (n : Nat) : Prop :=
  ∃ digits, (text = digits ∨ text = '+' :: digits) ∧ digits ≠ [] ∧
    (∀ c ∈ digits, c.isDigit = true) ∧ n = Nat.ofDigitChars 10 digits 0 ∧ n < 2 ^ 64

/-- Digits are added up, if there is nothing else and the sum fits. -/
lemma parseDigits_eq_ok_iff {k n : Nat} {cs : List Char} (hk : k ≤ maxLength) :
    parseDigits k cs = .ok n ↔
      (∀ c ∈ cs, c.isDigit = true) ∧ n = Nat.ofDigitChars 10 cs k ∧ n ≤ maxLength := by
  induction cs generalizing k with
  | nil =>
    constructor
    · intro h
      cases h
      exact ⟨nofun, rfl, hk⟩
    · rintro ⟨-, rfl, -⟩
      rfl
  | cons c cs ih =>
    rw [parseDigits, Nat.ofDigitChars_cons, Nat.mul_comm 10 k, List.forall_mem_cons]
    by_cases hc : c.isDigit = true
    · rw [if_pos hc]
      by_cases hlarge : maxLength < k * 10 + (c.toNat - '0'.toNat)
      · simp only [if_pos hlarge]
        refine ⟨nofun, ?_⟩
        rintro ⟨-, rfl, hle⟩
        exact absurd ((Json.le_ofDigitChars cs _).trans hle) (not_le.2 hlarge)
      · simp only [if_neg hlarge, ih (not_lt.1 hlarge), hc, true_and]
    · rw [if_neg hc]
      exact ⟨nofun, fun h => absurd h.1.1 hc⟩

/-- The texts of digits alone that are read as a length. -/
lemma parseDigits_zero_eq_ok_iff {n : Nat} {cs : List Char} :
    parseDigits 0 cs = .ok n ↔
      (∀ c ∈ cs, c.isDigit = true) ∧ n = Nat.ofDigitChars 10 cs 0 ∧ n < 2 ^ 64 := by
  rw [parseDigits_eq_ok_iff (Nat.zero_le _)]
  have hmax : n ≤ maxLength ↔ n < 2 ^ 64 := by
    rw [show maxLength = 2 ^ 64 - 1 from rfl]
    omega
  rw [hmax]

/-- **The texts that are read as a length** are those that are written for it. -/
theorem parseLength_eq_ok_iff {text : List Char} {n : Nat} :
    parseLength text = .ok n ↔ IsLength text n := by
  have hplus : ('+' : Char).isDigit = false := rfl
  unfold parseLength
  split
  · refine ⟨nofun, ?_⟩
    rintro ⟨digits, rfl | h, hsome, -⟩
    · exact absurd rfl hsome
    · cases h
  · refine ⟨nofun, ?_⟩
    rintro ⟨digits, rfl | h, hsome, hdigits, -⟩
    · simp [hplus] at hdigits
    · cases h
      exact absurd rfl hsome
  · rename_i cs hsome
    rw [parseDigits_zero_eq_ok_iff]
    constructor
    · rintro ⟨hdigits, hvalue, hfits⟩
      exact ⟨cs, .inr rfl, fun h => hsome (by rw [h]), hdigits, hvalue, hfits⟩
    · rintro ⟨digits, rfl | h, -, hdigits, hvalue, hfits⟩
      · simp [hplus] at hdigits
      · cases h
        exact ⟨hdigits, hvalue, hfits⟩
  · rename_i hsome _ hstart
    rw [parseDigits_zero_eq_ok_iff]
    constructor
    · rintro ⟨hdigits, hvalue, hfits⟩
      exact ⟨text, .inl rfl, fun h => hsome h, hdigits, hvalue, hfits⟩
    · rintro ⟨digits, rfl | h, -, hdigits, hvalue, hfits⟩
      · exact ⟨hdigits, hvalue, hfits⟩
      · exact absurd h (hstart digits)

/-! ## Header lines -/

/-- A text before a colon names the length. -/
def NamesLength (name : List Char) : Prop :=
  ':' ∉ name ∧ ∃ core, Trimmed name core ∧ core.map Char.toLower = "content-length".toList

/-- What a line says, or the fault that it is. -/
inductive LineSays : Bytes → Except FrameFault HeaderLine → Prop
  /-- A line that is not text. -/
  | notText {line : Bytes} {fault : Text.Fault} (h : ∀ s, line ≠ Text.encode s)
    (hfault : Text.decode line = .error fault) : LineSays line (.error (.headerNotText fault))
  /-- A blank line. -/
  | blank {s : String} (h : ∀ c ∈ s.toList, isBlank c = true) :
    LineSays (Text.encode s) (.ok .blank)
  /-- A line that gives a length. -/
  | length {s : String} {name value digits : List Char} {n : Nat}
    (h : s.toList = name ++ ':' :: value) (hname : NamesLength name)
    (hvalue : Trimmed value digits) (hn : IsLength digits n) :
    LineSays (Text.encode s) (.ok (.length n))
  /-- A line that should give a length and gives none. -/
  | badLength {s : String} {name value digits : List Char} {fault : LengthFault}
    (h : s.toList = name ++ ':' :: value) (hname : NamesLength name)
    (hvalue : Trimmed value digits) (hn : ∀ n, ¬ IsLength digits n)
    (hfault : parseLength digits = .error fault) :
    LineSays (Text.encode s) (.error (.badLength fault))
  /-- Any other line. -/
  | other {s : String} (h : ∃ c ∈ s.toList, isBlank c = false)
    (hname : ∀ name value, s.toList = name ++ ':' :: value → ¬ NamesLength name) :
    LineSays (Text.encode s) (.ok .other)

/-- Without a colon, a line names nothing. -/
lemma lengthText?_of_notMem {cs : List Char} (h : ':' ∉ cs) : lengthText? cs = none := by
  have hdrop : cs.dropWhile (· ≠ ':') = [] := by
    refine List.dropWhile_eq_nil_iff.2 fun c hc => ?_
    simpa using fun heq : c = ':' => h (heq ▸ hc)
  rw [lengthText?, hdrop]

/-- A line is split at its first colon. -/
lemma lengthText?_append {name : List Char} (hname : ':' ∉ name) (value : List Char) :
    lengthText? (name ++ ':' :: value) =
      if (trimChars name).map Char.toLower = lengthName then some (trimChars value) else none := by
  have hother : ∀ c ∈ name, decide (c ≠ ':') = true := by
    intro c hc
    simpa using fun heq : c = ':' => hname (heq ▸ hc)
  have hdrop : (name ++ ':' :: value).dropWhile (· ≠ ':') = ':' :: value := by
    rw [List.dropWhile_append_of_pos hother]
    rfl
  have htake : (name ++ ':' :: value).takeWhile (· ≠ ':') = name := by
    rw [List.takeWhile_append_of_pos hother]
    simp
  rw [lengthText?, hdrop, htake]

/-- Whether a line is trimmed before it is split or after makes no difference. -/
lemma lengthText?_trimChars {name : List Char} (hname : ':' ∉ name) (value : List Char) :
    lengthText? (trimChars (name ++ ':' :: value)) =
      if (trimChars name).map Char.toLower = lengthName then some (trimChars value) else none := by
  have hcolon : isBlank ':' = false := rfl
  obtain ⟨left, core, rfl, hleft, hfront⟩ := Text.exists_front name
  obtain ⟨text, right, rfl, hright, hback⟩ := Text.exists_back value
  have htrim : trimChars (left ++ core ++ ':' :: (text ++ right)) = core ++ ':' :: text := by
    rw [List.append_assoc, Text.trimChars_append_left hleft, ← List.cons_append,
      ← List.append_assoc, Text.trimChars_append_right hright]
    refine Text.trimChars_eq_self (fun c hc => ?_) fun c hc => ?_
    · cases core with
      | nil => cases hc; exact hcolon
      | cons d core => exact hfront c hc
    · rw [List.getLast?_append, List.getLast?_cons] at hc
      cases htext : text.getLast? with
      | none => simp [htext] at hc; subst hc; exact hcolon
      | some d => simp [htext] at hc; subst hc; exact hback d htext
  have hcore : ':' ∉ core := fun h => hname (List.mem_append_right left h)
  rw [htrim, lengthText?_append hcore, Text.trimChars_append_left hleft,
    Text.trimChars_append_right hright]

/-- What stands after the name of the length is taken, without the blanks around it. -/
lemma lengthText?_of_namesLength {cs name value digits : List Char}
    (h : cs = name ++ ':' :: value) (hname : NamesLength name) (hvalue : Trimmed value digits) :
    lengthText? (trimChars cs) = some digits := by
  obtain ⟨hfirst, core, hcore, hlower⟩ := hname
  have hlength : core.map Char.toLower = lengthName := hlower
  rw [h, lengthText?_trimChars hfirst, Text.trimmed_iff.1 hcore, Text.trimmed_iff.1 hvalue,
    if_pos hlength]

/-- Where no colon follows the name of the length, nothing is taken. -/
lemma lengthText?_of_not_namesLength {cs : List Char}
    (h : ∀ name value, cs = name ++ ':' :: value → ¬ NamesLength name) :
    lengthText? (trimChars cs) = none := by
  by_cases hmem : ':' ∈ cs
  · obtain ⟨name, value, hcs, hfirst⟩ := List.eq_append_cons_of_mem hmem
    rw [hcs, lengthText?_trimChars hfirst, if_neg]
    exact fun hlower => h name value hcs ⟨hfirst, _, Text.trimmed_iff.2 rfl, hlower⟩
  · refine lengthText?_of_notMem fun hcore => hmem ?_
    obtain ⟨⟨left, right, hcs, -, -⟩, -, -⟩ := Text.trimmed_iff.2 (Eq.refl (trimChars cs))
    rw [hcs]
    exact List.mem_append_left _ (List.mem_append_right left hcore)

/-- A text with a character that is no blank is not trimmed away. -/
lemma isEmpty_trimChars {cs : List Char} {c : Char} (hc : c ∈ cs) (h : isBlank c = false) :
    (trimChars cs).isEmpty = false := by
  rw [List.isEmpty_eq_false_iff, ne_eq, Text.trimChars_eq_nil_iff]
  intro hblank
  rw [hblank c hc] at h
  cases h

/-- What a line says is read from it. -/
lemma headerLine_of_lineSays {line : Bytes} {meaning : Except FrameFault HeaderLine}
    (h : LineSays line meaning) : headerLine line = meaning := by
  have hcolon : ∀ {cs name value : List Char}, cs = name ++ ':' :: value →
      (trimChars cs).isEmpty = false := by
    rintro cs name value rfl
    have hmem : ':' ∈ name ++ ':' :: value := List.mem_append_right name List.mem_cons_self
    exact isEmpty_trimChars hmem (by decide)
  cases h with
  | notText _ hfault => rw [headerLine, hfault]
  | blank h =>
    rw [headerLine, Text.decode_encode]
    simp only [Text.trimChars_eq_nil_iff.2 h, List.isEmpty_nil, if_true]
  | length h hname hvalue hn =>
    rw [headerLine, Text.decode_encode]
    simp only [hcolon h, lengthText?_of_namesLength h hname hvalue, parseLength_eq_ok_iff.2 hn,
      Bool.false_eq_true, if_false]
  | badLength h hname hvalue hn hfault =>
    rw [headerLine, Text.decode_encode]
    simp only [hcolon h, lengthText?_of_namesLength h hname hvalue, hfault, Bool.false_eq_true,
      if_false]
  | other h hname =>
    obtain ⟨c, hc, hblank⟩ := h
    rw [headerLine, Text.decode_encode]
    simp only [isEmpty_trimChars hc hblank, lengthText?_of_not_namesLength hname,
      Bool.false_eq_true, if_false]

/-- Every line says something. -/
lemma exists_lineSays (line : Bytes) : ∃ meaning, LineSays line meaning := by
  cases htext : Text.decode line with
  | error fault =>
    refine ⟨_, .notText (fun s hs => ?_) htext⟩
    rw [hs, Text.decode_encode] at htext
    cases htext
  | ok s =>
    rw [Text.decode_eq_ok_iff.1 htext]
    by_cases hblank : ∀ c ∈ s.toList, isBlank c = true
    · exact ⟨_, .blank hblank⟩
    · push Not at hblank
      obtain ⟨c, hc, hblank⟩ := hblank
      by_cases hname : ∀ name value, s.toList = name ++ ':' :: value → ¬ NamesLength name
      · exact ⟨_, .other ⟨c, hc, Bool.eq_false_iff.2 hblank⟩ hname⟩
      · push Not at hname
        obtain ⟨name, value, hs, hname⟩ := hname
        have hvalue : Trimmed value (trimChars value) := Text.trimmed_iff.2 rfl
        cases hlength : parseLength (trimChars value) with
        | ok n => exact ⟨_, .length hs hname hvalue (parseLength_eq_ok_iff.1 hlength)⟩
        | error fault =>
          refine ⟨_, .badLength hs hname hvalue (fun n hn => ?_) hlength⟩
          rw [parseLength_eq_ok_iff.2 hn] at hlength
          cases hlength

/-- **What is read from a line is what it says.** -/
theorem headerLine_eq_iff {line : Bytes} {meaning : Except FrameFault HeaderLine} :
    headerLine line = meaning ↔ LineSays line meaning := by
  refine ⟨?_, headerLine_of_lineSays⟩
  rintro rfl
  obtain ⟨meaning, h⟩ := exists_lineSays line
  rwa [headerLine_of_lineSays h]

end LintPool
