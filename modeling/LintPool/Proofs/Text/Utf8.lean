import Mathlib.Tactic.Common
import LintPool.Text.Utf8

set_option autoImplicit false

/-!
# Text and its bytes

Decoding reads back what encoding writes, and it takes nothing else: a byte string is text just if
it is the bytes of a text, and of that text only.

## Main definitions

* `LintPool.Text.spell` — the bytes of characters.

## Main results

* `LintPool.Text.decodeChar_eq_char_iff` — a character is read just where its bytes stand.
* `LintPool.Text.decode_eq_ok_iff` — the byte strings that are text.
-/

namespace LintPool.Text

/-! ## The bytes after a first byte -/

/-- The bytes that continue a character. -/
lemma isContinuation_iff (b : UInt8) :
    isContinuation b = true ↔ 0x80 ≤ b.toNat ∧ b.toNat ≤ 0xBF := by
  simp [isContinuation, UInt8.le_iff_toNat_le]

/-- The second bytes of characters of three bytes. -/
lemma secondOfThree_iff (lead b : UInt8) : secondOfThree lead b = true ↔
    0x80 ≤ b.toNat ∧ b.toNat ≤ 0xBF ∧ (lead.toNat = 0xE0 → 0xA0 ≤ b.toNat) ∧
      (lead.toNat = 0xED → b.toNat ≤ 0x9F) := by
  simp only [secondOfThree, isContinuation, ← UInt8.toNat_inj, UInt8.reduceToNat]
  split
  · simp [UInt8.le_iff_toNat_le]; omega
  · split <;> simp [UInt8.le_iff_toNat_le] <;> omega

/-- The second bytes of characters of four bytes. -/
lemma secondOfFour_iff (lead b : UInt8) : secondOfFour lead b = true ↔
    0x80 ≤ b.toNat ∧ b.toNat ≤ 0xBF ∧ (lead.toNat = 0xF0 → 0x90 ≤ b.toNat) ∧
      (lead.toNat = 0xF4 → b.toNat ≤ 0x8F) := by
  simp only [secondOfFour, isContinuation, ← UInt8.toNat_inj, UInt8.reduceToNat]
  split
  · simp [UInt8.le_iff_toNat_le]; omega
  · split <;> simp [UInt8.le_iff_toNat_le] <;> omega

section

variable {lead : UInt8} {rest r : Bytes} {c : Char}

/-- The rest of a character of two bytes. -/
lemma decodeTwo_eq_char_iff : decodeTwo lead rest = .char c r ↔
    ∃ b, rest = b :: r ∧ isContinuation b = true ∧
      c = Char.ofNat (lead.toNat % 32 * 64 + b.toNat % 64) := by
  rcases rest with _ | ⟨b, rest⟩
  · simp [decodeTwo]
  · simp only [decodeTwo]
    split <;> grind [payload]

/-- The rest of a character of three bytes. -/
lemma decodeThree_eq_char_iff : decodeThree lead rest = .char c r ↔
    ∃ b b', rest = b :: b' :: r ∧ secondOfThree lead b = true ∧ isContinuation b' = true ∧
      c = Char.ofNat (lead.toNat % 16 * 4096 + b.toNat % 64 * 64 + b'.toNat % 64) := by
  rcases rest with _ | ⟨b, _ | ⟨b', rest⟩⟩
  · simp [decodeThree]
  · simp only [decodeThree]
    split <;> grind
  · simp only [decodeThree]
    split
    · grind
    · split <;> grind [payload]

/-- The rest of a character of four bytes. -/
lemma decodeFour_eq_char_iff : decodeFour lead rest = .char c r ↔
    ∃ b b' b'', rest = b :: b' :: b'' :: r ∧ secondOfFour lead b = true ∧
      isContinuation b' = true ∧ isContinuation b'' = true ∧
      c = Char.ofNat (lead.toNat % 8 * 262144 + b.toNat % 64 * 4096 + b'.toNat % 64 * 64 +
        b''.toNat % 64) := by
  rcases rest with _ | ⟨b, _ | ⟨b', _ | ⟨b'', rest⟩⟩⟩
  · simp [decodeFour]
  · simp only [decodeFour]
    split <;> grind
  · simp only [decodeFour]
    split
    · grind
    · split <;> grind
  · simp only [decodeFour]
    split
    · grind
    · split
      · grind
      · split
        · rename_i hsecond hthird hfourth
          simp only [Bool.not_eq_true', Bool.not_eq_false] at hsecond hthird
          constructor
          · intro h
            cases h
            exact ⟨b, b', b'', rfl, hsecond, hthird, hfourth, rfl⟩
          · rintro ⟨_, _, _, hrest, -, -, -, rfl⟩
            cases hrest
            rfl
        · rename_i hfourth
          constructor
          · intro h
            cases h
          · rintro ⟨_, _, _, hrest, -, -, hfourth', -⟩
            cases hrest
            exact absurd hfourth' hfourth

end

/-- The kinds of first bytes. -/
lemma decodeChar_eq (lead : UInt8) (rest : Bytes) : decodeChar lead rest =
    if lead.toNat ≤ 0x7F then .char (Char.ofNat lead.toNat) rest
    else if lead.toNat < 0xC2 then .invalid 1 rest
    else if lead.toNat ≤ 0xDF then decodeTwo lead rest
    else if lead.toNat ≤ 0xEF then decodeThree lead rest
    else if lead.toNat ≤ 0xF4 then decodeFour lead rest
    else .invalid 1 rest := by
  simp only [decodeChar, UInt8.lt_iff_toNat_lt, UInt8.le_iff_toNat_le, UInt8.reduceToNat,
    Bool.and_eq_true, decide_eq_true_eq]
  split_ifs <;> first | rfl | omega

/-! ## One character -/

/-- The bytes of the character of a number. -/
lemma utf8EncodeChar_ofNat {n : Nat} (h : n < 0xD800 ∨ 0xDFFF < n ∧ n < 0x110000) :
    String.utf8EncodeChar (Char.ofNat n) =
      if n ≤ 0x7F then [UInt8.ofNat n]
      else if n ≤ 0x7FF then [UInt8.ofNat (n / 64 % 32 + 192), UInt8.ofNat (n % 64 + 128)]
      else if n ≤ 0xFFFF then
        [UInt8.ofNat (n / 4096 % 16 + 224), UInt8.ofNat (n / 64 % 64 + 128),
          UInt8.ofNat (n % 64 + 128)]
      else
        [UInt8.ofNat (n / 262144 % 8 + 240), UInt8.ofNat (n / 4096 % 64 + 128),
          UInt8.ofNat (n / 64 % 64 + 128), UInt8.ofNat (n % 64 + 128)] := by
  have hval : (Char.ofNat n).val.toNat = n := by
    rw [Char.ofNat, dif_pos h]
    rfl
  rw [String.utf8EncodeChar, hval]

/-- The byte of the number that a byte has. -/
lemma ofNat_eq_of_toNat {n : Nat} {b : UInt8} (h : b.toNat = n) : UInt8.ofNat n = b := by
  rw [← h, UInt8.ofNat_toNat]

/-- What is read as a character is the bytes of that character. -/
lemma eq_utf8EncodeChar_append {lead : UInt8} {rest r : Bytes} {c : Char}
    (h : decodeChar lead rest = .char c r) : lead :: rest = String.utf8EncodeChar c ++ r := by
  rw [decodeChar_eq] at h
  split_ifs at h with h₁ h₂ h₃ h₄ h₅
  · cases h
    rw [utf8EncodeChar_ofNat (by omega), if_pos h₁, UInt8.ofNat_toNat]
    rfl
  · obtain ⟨b, rfl, hb, rfl⟩ := decodeTwo_eq_char_iff.1 h
    rw [isContinuation_iff] at hb
    rw [utf8EncodeChar_ofNat (by omega), if_neg (by omega), if_pos (by omega),
      ofNat_eq_of_toNat (b := lead) (by omega), ofNat_eq_of_toNat (b := b) (by omega)]
    rfl
  · obtain ⟨b, b', rfl, hb, hb', rfl⟩ := decodeThree_eq_char_iff.1 h
    rw [secondOfThree_iff] at hb
    rw [isContinuation_iff] at hb'
    rw [utf8EncodeChar_ofNat (by omega), if_neg (by omega), if_neg (by omega), if_pos (by omega),
      ofNat_eq_of_toNat (b := lead) (by omega), ofNat_eq_of_toNat (b := b) (by omega),
      ofNat_eq_of_toNat (b := b') (by omega)]
    rfl
  · obtain ⟨b, b', b'', rfl, hb, hb', hb'', rfl⟩ := decodeFour_eq_char_iff.1 h
    rw [secondOfFour_iff] at hb
    rw [isContinuation_iff] at hb' hb''
    rw [utf8EncodeChar_ofNat (by omega), if_neg (by omega), if_neg (by omega), if_neg (by omega),
      ofNat_eq_of_toNat (b := lead) (by omega), ofNat_eq_of_toNat (b := b) (by omega),
      ofNat_eq_of_toNat (b := b') (by omega), ofNat_eq_of_toNat (b := b'') (by omega)]
    rfl

/-- The bytes of a character are read as that character. -/
lemma decodeChar_utf8EncodeChar (c : Char) (rest : Bytes) :
    ∃ lead more, String.utf8EncodeChar c = lead :: more ∧
      decodeChar lead (more ++ rest) = .char c rest := by
  have hvalid : c.toNat < 0xD800 ∨ 0xDFFF < c.toNat ∧ c.toNat < 0x110000 := c.valid
  have hbytes := utf8EncodeChar_ofNat hvalid
  have hc : Char.ofNat c.toNat = c := Char.ofNat_toNat c
  rw [hc] at hbytes
  generalize c.toNat = n at hvalid hbytes hc
  have hbyte : ∀ k, k < 256 → (UInt8.ofNat k).toNat = k := fun k hk => UInt8.toNat_ofNat_of_lt' hk
  split_ifs at hbytes with h₁ h₂ h₃
  · refine ⟨_, _, hbytes, ?_⟩
    rw [decodeChar_eq, hbyte _ (by omega), if_pos h₁, hc]
    rfl
  · refine ⟨_, _, hbytes, ?_⟩
    rw [decodeChar_eq, hbyte _ (by omega), if_neg (by omega), if_neg (by omega), if_pos (by omega)]
    refine decodeTwo_eq_char_iff.2 ⟨_, rfl, ?_, ?_⟩
    · rw [isContinuation_iff, hbyte _ (by omega)]
      omega
    · rw [hbyte _ (by omega), hbyte _ (by omega), ← hc]
      congr 1
      omega
  · refine ⟨_, _, hbytes, ?_⟩
    rw [decodeChar_eq, hbyte _ (by omega), if_neg (by omega), if_neg (by omega), if_neg (by omega),
      if_pos (by omega)]
    refine decodeThree_eq_char_iff.2 ⟨_, _, rfl, ?_, ?_, ?_⟩
    · rw [secondOfThree_iff, hbyte _ (by omega), hbyte _ (by omega)]
      omega
    · rw [isContinuation_iff, hbyte _ (by omega)]
      omega
    · rw [hbyte _ (by omega), hbyte _ (by omega), hbyte _ (by omega), ← hc]
      congr 1
      omega
  · refine ⟨_, _, hbytes, ?_⟩
    rw [decodeChar_eq, hbyte _ (by omega), if_neg (by omega), if_neg (by omega), if_neg (by omega),
      if_neg (by omega), if_pos (by omega)]
    refine decodeFour_eq_char_iff.2 ⟨_, _, _, rfl, ?_, ?_, ?_, ?_⟩
    · rw [secondOfFour_iff, hbyte _ (by omega), hbyte _ (by omega)]
      omega
    · rw [isContinuation_iff, hbyte _ (by omega)]
      omega
    · rw [isContinuation_iff, hbyte _ (by omega)]
      omega
    · rw [hbyte _ (by omega), hbyte _ (by omega), hbyte _ (by omega), hbyte _ (by omega), ← hc]
      congr 1
      omega

/-- **A character is read just where its bytes stand.** -/
theorem decodeChar_eq_char_iff {lead : UInt8} {rest r : Bytes} {c : Char} :
    decodeChar lead rest = .char c r ↔ lead :: rest = String.utf8EncodeChar c ++ r := by
  refine ⟨eq_utf8EncodeChar_append, fun h => ?_⟩
  obtain ⟨lead', more, hbytes, hread⟩ := decodeChar_utf8EncodeChar c r
  rw [hbytes, List.cons_append] at h
  cases h
  exact hread

/-- The bytes of a character are its own number, if that is below 128, or all at least 128. -/
lemma mem_utf8EncodeChar {c : Char} {b : UInt8} (h : b ∈ String.utf8EncodeChar c) :
    c.toNat < 128 ∧ String.utf8EncodeChar c = [UInt8.ofNat c.toNat] ∨ 128 ≤ b.toNat := by
  have hbytes := utf8EncodeChar_ofNat (n := c.toNat) c.valid
  rw [Char.ofNat_toNat] at hbytes
  have hbyte : ∀ k, k < 256 → (UInt8.ofNat k).toNat = k := fun k hk => UInt8.toNat_ofNat_of_lt' hk
  split_ifs at hbytes with h₁ h₂ h₃
  · exact .inl ⟨by omega, hbytes⟩
  all_goals
    refine .inr ?_
    rw [hbytes] at h
    simp only [List.mem_cons, List.not_mem_nil, or_false] at h
    rcases h with rfl | rfl | rfl | rfl <;> rw [hbyte _ (by omega)] <;> omega

/-! ## Whole texts -/

/-- The bytes of characters. -/
def spell (cs : List Char) : Bytes :=
  cs.flatMap String.utf8EncodeChar

/-- No characters are spelled as no bytes. -/
@[simp] lemma spell_nil : spell [] = [] := rfl

/-- The first character is spelled first. -/
@[simp] lemma spell_cons (c : Char) (cs : List Char) :
    spell (c :: cs) = String.utf8EncodeChar c ++ spell cs := rfl

/-- Characters are spelled one after another. -/
@[simp] lemma spell_append (cs ds : List Char) : spell (cs ++ ds) = spell cs ++ spell ds :=
  List.flatMap_append

/-- The bytes of a text are those of its characters. -/
lemma encode_ofList (cs : List Char) : encode (String.ofList cs) = spell cs := by
  rw [encode, String.toList_ofList, spell]

/-- A character below 128 is one byte. -/
lemma utf8EncodeChar_of_lt {c : Char} (h : c.toNat < 128) :
    String.utf8EncodeChar c = [UInt8.ofNat c.toNat] := by
  have hbytes := utf8EncodeChar_ofNat (n := c.toNat) c.valid
  rwa [Char.ofNat_toNat, if_pos (by omega)] at hbytes

/-- The characters before others are decoded first. -/
lemma decodeFrom_spell (before : Nat) (done cs : List Char) :
    decodeFrom before done (spell cs) = .ok (done.reverse ++ cs) := by
  induction cs generalizing before done with
  | nil => simp [decodeFrom]
  | cons c cs ih =>
    obtain ⟨lead, more, hbytes, hread⟩ := decodeChar_utf8EncodeChar c (spell cs)
    rw [spell_cons, hbytes, List.cons_append, decodeFrom]
    split
    · rename_i c' r hchar
      cases hread.symm.trans hchar
      simp [ih]
    · rename_i hchar
      cases hread.symm.trans hchar
    · rename_i hchar
      cases hread.symm.trans hchar

/-- What is decoded is the bytes of its characters. -/
lemma eq_spell_of_decodeFrom {before : Nat} {done cs : List Char} {bytes : Bytes}
    (h : decodeFrom before done bytes = .ok cs) :
    ∃ more, cs = done.reverse ++ more ∧ bytes = spell more := by
  fun_induction decodeFrom before done bytes with
  | case1 before done =>
    cases h
    exact ⟨[], by simp, rfl⟩
  | case2 before done lead rest c r hchar _ ih =>
    obtain ⟨more, rfl, rfl⟩ := ih h
    exact ⟨c :: more, by simp, by rw [eq_utf8EncodeChar_append hchar, spell_cons]⟩
  | case3 => cases h
  | case4 => cases h

/-- The bytes of a text are that text. -/
@[simp]
theorem decode_encode (s : String) : decode (encode s) = .ok s := by
  have h := decodeFrom_spell 0 [] s.toList
  rw [decode, encode, ← spell, h]
  simp [Except.map]

/-- Texts with the same bytes are the same. -/
lemma encode_injective : Function.Injective encode := fun s s' h => by
  have hsame : (.ok s : Except Fault String) = .ok s' := by
    rw [← decode_encode s, ← decode_encode s', h]
  exact Except.ok.inj hsame

/-- A character below 128 that a text does not have is no byte of the text. -/
lemma notMem_spell_of_lt {c : Char} (hc : c.toNat < 128) {cs : List Char} (h : c ∉ cs) :
    UInt8.ofNat c.toNat ∉ spell cs := by
  intro hmem
  obtain ⟨d, hd, hbyte⟩ := List.mem_flatMap.1 hmem
  have hval : ∀ n, n < 128 → (UInt8.ofNat n).toNat = n := fun n hn =>
    UInt8.toNat_ofNat_of_lt' (Nat.lt_trans hn (by decide))
  rcases mem_utf8EncodeChar hbyte with ⟨hsmall, hbytes⟩ | hlarge
  · rw [hbytes, List.mem_singleton] at hbyte
    have hcode : c.toNat = d.toNat := by rw [← hval _ hc, ← hval _ hsmall, hbyte]
    exact h (Char.toNat_inj.1 hcode ▸ hd)
  · rw [hval _ hc] at hlarge
    omega

/-- **The byte strings that are text** are those that a text is written as. -/
theorem decode_eq_ok_iff {bytes : Bytes} {s : String} :
    decode bytes = .ok s ↔ bytes = encode s := by
  constructor
  · intro h
    rw [decode] at h
    cases hchars : decodeFrom 0 [] bytes with
    | error _ =>
      rw [hchars] at h
      cases h
    | ok cs =>
      rw [hchars] at h
      cases h
      obtain ⟨more, rfl, rfl⟩ := eq_spell_of_decodeFrom hchars
      simp [encode_ofList]
  · rintro rfl
    exact decode_encode s

end LintPool.Text
