set_option autoImplicit false

/-!
# UTF-8: bytes and the text they spell

Programs exchange bytes; records, paths and messages are text. This module turns one into the
other. Decoding reads one character at a time and says, where it fails, how much of the input was
sound and how long the faulty piece is, because both numbers appear in messages.

## Main definitions

* `LintPool.Bytes` — a byte string.
* `LintPool.Text.encode` — the bytes of a text.
* `LintPool.Text.decodeChar` — one character off the front of a byte string.
* `LintPool.Text.decode` — the whole byte string as text, or the first fault.
* `LintPool.Text.decodeLossy` — the same with every faulty piece replaced by U+FFFD.
-/

namespace LintPool

/-- A byte string. -/
abbrev Bytes := List UInt8

namespace Text

/-- The UTF-8 bytes of a text. -/
def encode (s : String) : Bytes :=
  s.toList.flatMap String.utf8EncodeChar

/-- What stands at the front of a byte string. -/
inductive Front where
  /-- A character and what follows it. -/
  | char (c : Char) (rest : Bytes)
  /-- A piece of `length` bytes that no character starts with, and what follows it. -/
  | invalid (length : Nat) (rest : Bytes)
  /-- The start of a character that the input ends inside. -/
  | incomplete
  deriving Repr, DecidableEq

/-- Whether a byte continues a character. -/
def isContinuation (b : UInt8) : Bool :=
  0x80 ≤ b && b ≤ 0xBF

/-- The low six bits of a continuation byte. -/
def payload (b : UInt8) : Nat :=
  b.toNat % 64

/-- The bytes that may follow the first byte `lead` of a character of three bytes. -/
def secondOfThree (lead b : UInt8) : Bool :=
  if lead = 0xE0 then 0xA0 ≤ b && b ≤ 0xBF
  else if lead = 0xED then 0x80 ≤ b && b ≤ 0x9F
  else isContinuation b

/-- The bytes that may follow the first byte `lead` of a character of four bytes. -/
def secondOfFour (lead b : UInt8) : Bool :=
  if lead = 0xF0 then 0x90 ≤ b && b ≤ 0xBF
  else if lead = 0xF4 then 0x80 ≤ b && b ≤ 0x8F
  else isContinuation b

/-- Reads the rest of a character of two bytes. -/
def decodeTwo (lead : UInt8) : Bytes → Front
  | [] => .incomplete
  | b :: rest =>
    if isContinuation b then .char (Char.ofNat (lead.toNat % 32 * 64 + payload b)) rest
    else .invalid 1 (b :: rest)

/-- Reads the rest of a character of three bytes. -/
def decodeThree (lead : UInt8) : Bytes → Front
  | [] => .incomplete
  | b :: rest =>
    if !secondOfThree lead b then .invalid 1 (b :: rest)
    else match rest with
      | [] => .incomplete
      | c :: rest =>
        if isContinuation c then
          .char (Char.ofNat (lead.toNat % 16 * 4096 + payload b * 64 + payload c)) rest
        else .invalid 2 (c :: rest)

/-- Reads the rest of a character of four bytes. -/
def decodeFour (lead : UInt8) : Bytes → Front
  | [] => .incomplete
  | b :: rest =>
    if !secondOfFour lead b then .invalid 1 (b :: rest)
    else match rest with
      | [] => .incomplete
      | c :: rest =>
        if !isContinuation c then .invalid 2 (c :: rest)
        else match rest with
          | [] => .incomplete
          | d :: rest =>
            if isContinuation d then
              .char (Char.ofNat
                (lead.toNat % 8 * 262144 + payload b * 4096 + payload c * 64 + payload d)) rest
            else .invalid 3 (d :: rest)

/-- Reads the character whose first byte is `lead`. -/
def decodeChar (lead : UInt8) (rest : Bytes) : Front :=
  if lead < 0x80 then .char (Char.ofNat lead.toNat) rest
  else if 0xC2 ≤ lead && lead ≤ 0xDF then decodeTwo lead rest
  else if 0xE0 ≤ lead && lead ≤ 0xEF then decodeThree lead rest
  else if 0xF0 ≤ lead && lead ≤ 0xF4 then decodeFour lead rest
  else .invalid 1 rest

/-- Reading a character never lengthens what is left. -/
theorem decodeChar_char_length {lead : UInt8} {rest : Bytes} {c : Char} {r : Bytes}
    (h : decodeChar lead rest = .char c r) : r.length ≤ rest.length := by
  unfold decodeChar decodeTwo decodeThree decodeFour at h
  repeat' split at h
  all_goals first
    | contradiction
    | (injection h with _ h; subst h; exact Nat.le_refl _)
    | (injection h with _ h; subst h; simp only [List.length_cons]; omega)

/-- Skipping a faulty piece never lengthens what is left. -/
theorem decodeChar_invalid_length {lead : UInt8} {rest : Bytes} {n : Nat} {r : Bytes}
    (h : decodeChar lead rest = .invalid n r) : r.length ≤ rest.length := by
  unfold decodeChar decodeTwo decodeThree decodeFour at h
  repeat' split at h
  all_goals first
    | contradiction
    | (injection h with _ h; subst h; exact Nat.le_refl _)
    | (injection h with _ h; subst h; simp only [List.length_cons]; omega)

/-- Why a byte string is not text: everything before `start` is sound. -/
structure Fault where
  /-- The number of sound bytes before the fault. -/
  start : Nat
  /-- The length of the faulty piece, or nothing when the input ends inside a character. -/
  length : Option Nat
  deriving Repr, DecidableEq

/-- The wording of a fault. -/
def Fault.message (f : Fault) : String :=
  match f.length with
  | some n => s!"invalid utf-8 sequence of {n} bytes from index {f.start}"
  | none => s!"incomplete utf-8 byte sequence from index {f.start}"

/-- Reads characters off `bytes`, `before` bytes into the input; `done` holds them backwards. -/
def decodeFrom (before : Nat) (done : List Char) (bytes : Bytes) : Except Fault (List Char) :=
  match bytes with
  | [] => .ok done.reverse
  | lead :: rest =>
    match h : decodeChar lead rest with
    | .char c r =>
      have := decodeChar_char_length h
      decodeFrom (before + c.utf8Size) (c :: done) r
    | .invalid n _ => .error ⟨before, some n⟩
    | .incomplete => .error ⟨before, none⟩
termination_by bytes.length
decreasing_by simp only [List.length_cons]; omega

/-- The text that a byte string spells, or its first fault. -/
def decode (bytes : Bytes) : Except Fault String :=
  (decodeFrom 0 [] bytes).map String.ofList

/-- Reads characters off `bytes`, a replacement character for each faulty piece. -/
def decodeLossyFrom (done : List Char) (bytes : Bytes) : List Char :=
  match bytes with
  | [] => done.reverse
  | lead :: rest =>
    match h : decodeChar lead rest with
    | .char c r =>
      have := decodeChar_char_length h
      decodeLossyFrom (c :: done) r
    | .invalid _ r =>
      have := decodeChar_invalid_length h
      decodeLossyFrom ('\uFFFD' :: done) r
    | .incomplete => ('\uFFFD' :: done).reverse
termination_by bytes.length
decreasing_by all_goals simp only [List.length_cons]; omega

/-- The text of a byte string, with U+FFFD for each faulty piece. -/
def decodeLossy (bytes : Bytes) : String :=
  String.ofList (decodeLossyFrom [] bytes)

end Text

end LintPool
