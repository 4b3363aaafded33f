import LintPool.Json.Basic
import LintPool.Text.Hex

set_option autoImplicit false

/-!
# Reading JSON

The reader takes bytes. A fault names what is wrong and where: the line, and the byte within it, of
the last byte that was taken, or of the one that was looked at and refused. At most 127 arrays and
objects may be open at once, and a floating point number that overflows is refused.

The value of a number with a point, an exponent or too many digits is not always the nearest one:
the first digits that fit 64 bits are rounded once, and the power of ten is then multiplied in or
divided out, which rounds again.

## Main definitions

* `LintPool.Json.Problem`, `LintPool.Json.Fault` — what is wrong, and with how much input left.
* `LintPool.Json.readValue` — one value off the front of a byte string.
* `LintPool.Json.ofBytes` — the one value that a byte string holds.
* `LintPool.Json.Complaint` — a problem with its line and column, and its wording.
-/

namespace LintPool.Json

/-- What can be wrong with a text that should be JSON. -/
inductive Problem where
  | endInList
  | endInObject
  | endInText
  | endInValue
  | noColon
  | noListComma
  | noObjectComma
  | badWord
  | noValue
  | badEscape
  | badNumber
  | outOfRange
  | badCodePoint
  | controlCharacter
  | keyNotText
  | loneSurrogate
  | trailingComma
  | trailingCharacters
  | unfinishedEscape
  | tooDeep
  deriving Repr, DecidableEq

/-- The wording of a problem. -/
def Problem.message : Problem → String
  | .endInList => "EOF while parsing a list"
  | .endInObject => "EOF while parsing an object"
  | .endInText => "EOF while parsing a string"
  | .endInValue => "EOF while parsing a value"
  | .noColon => "expected \x60:\x60"
  | .noListComma => "expected \x60,\x60 or \x60]\x60"
  | .noObjectComma => "expected \x60,\x60 or \x60\x7d\x60"
  | .badWord => "expected ident"
  | .noValue => "expected value"
  | .badEscape => "invalid escape"
  | .badNumber => "invalid number"
  | .outOfRange => "number out of range"
  | .badCodePoint => "invalid unicode code point"
  | .controlCharacter => "control character (\\u0000-\\u001F) found while parsing a string"
  | .keyNotText => "key must be a string"
  | .loneSurrogate => "lone leading surrogate in hex escape"
  | .trailingComma => "trailing comma"
  | .trailingCharacters => "trailing characters"
  | .unfinishedEscape => "unexpected end of hex escape"
  | .tooDeep => "recursion limit exceeded"

/-- A problem, the input left when it was found, and whether the next byte is the one to blame. -/
structure Fault where
  /-- What is wrong. -/
  problem : Problem
  /-- The input that was not taken yet. -/
  rest : Bytes
  /-- Whether the first byte of `rest`, not the last byte before it, is to blame. -/
  ahead : Bool
  deriving Repr, DecidableEq

/-- A fault at the last byte taken. -/
def Fault.here (problem : Problem) (rest : Bytes) : Fault := ⟨problem, rest, false⟩

/-- A fault at the byte after that. -/
def Fault.next (problem : Problem) (rest : Bytes) : Fault := ⟨problem, rest, true⟩

/-! ## Blanks and words -/

/-- The blanks of JSON: space, tab, line feed and carriage return. -/
def isSpace (b : UInt8) : Bool :=
  b == 0x20 || b == 0x09 || b == 0x0A || b == 0x0D

/-- The input without the blanks at its front. -/
def skipSpace (input : Bytes) : Bytes :=
  input.dropWhile isSpace

/-- Takes the bytes of `word`. -/
def readWord : Bytes → Bytes → Except Fault Bytes
  | [], input => .ok input
  | _ :: _, [] => .error (.here .endInValue [])
  | w :: word, b :: rest => if b = w then readWord word rest else .error (.here .badWord rest)

/-! ## Numbers -/

/-- The largest number of 64 bits. -/
def maxWord64 : Nat := Nat.pow 2 64 - 1

/-- The largest exponent that is added up. -/
def maxExponent : Nat := Nat.pow 2 31 - 1

/-- The value of a decimal digit. -/
def digit? (b : UInt8) : Option Nat :=
  if 0x30 ≤ b ∧ b ≤ 0x39 then some (b.toNat - 0x30) else none

/-- Whether a byte is a decimal digit. -/
def isDigit (b : UInt8) : Bool :=
  0x30 ≤ b && b ≤ 0x39

/-- Digits added onto a significand as long as it fits 64 bits: the significand, how many digits
were added, how many more digits stand in the input, and what follows them. -/
def takeDigits (significand added : Nat) : Bytes → Nat × Nat × Nat × Bytes
  | [] => (significand, added, 0, [])
  | b :: rest =>
    match digit? b with
    | none => (significand, added, 0, b :: rest)
    | some d =>
      if maxWord64 < significand * 10 + d then
        let spare := (b :: rest).takeWhile isDigit
        (significand, added, spare.length, (b :: rest).dropWhile isDigit)
      else takeDigits (significand * 10 + d) (added + 1) rest

/-- A significand times a power of ten: the power is multiplied in or divided out, in pieces of at
most 10³⁰⁸, each step rounded; nothing if the result overflows. -/
def scale? (f : Magnitude) (exponent : Int) : Option Magnitude :=
  if exponent.natAbs ≤ 308 then
    if 0 ≤ exponent then
      let g := f.mul (.ofNat (Nat.pow 10 exponent.toNat))
      if g.isFinite then some g else none
    else some (f.div (.ofNat (Nat.pow 10 (-exponent).toNat)))
  else if f = .zero then some f
  else if 0 ≤ exponent then none
  else scale? (f.div (.ofNat (Nat.pow 10 308))) (exponent + 308)
termination_by exponent.natAbs
decreasing_by omega

/-- The floating point number of a sign, a significand and a power of ten. -/
def assemble (negative : Bool) (significand : Nat) (exponent : Int) (rest : Bytes) :
    Except Fault (Json × Bytes) :=
  match scale? (.ofNat significand) exponent with
  | some m => .ok (.float ⟨negative, m⟩, rest)
  | none => .error (.here .outOfRange rest)

/-- The digits of an exponent added up as long as they stay in range: the sum and what follows, or
the input after the digit that overflowed. -/
def takeExponent (sum : Nat) : Bytes → Except Bytes (Nat × Bytes)
  | [] => .ok (sum, [])
  | b :: rest =>
    match digit? b with
    | none => .ok (sum, b :: rest)
    | some d =>
      if maxExponent < sum * 10 + d then .error rest else takeExponent (sum * 10 + d) rest

/-- Reads an exponent, its letter already taken, and makes the number. -/
def readExponent (negative : Bool) (significand : Nat) (exponent : Int) (input : Bytes) :
    Except Fault (Json × Bytes) :=
  let (down, input) := match input with
    | 0x2B :: rest => (false, rest)
    | 0x2D :: rest => (true, rest)
    | _ => (false, input)
  match input with
  | [] => .error (.here .endInValue [])
  | b :: rest =>
    match digit? b with
    | none => .error (.here .badNumber rest)
    | some d =>
      match takeExponent d rest with
      | .ok (e, rest) =>
        assemble negative significand (if down then exponent - e else exponent + e) rest
      | .error rest =>
        if significand ≠ 0 && !down then .error (.here .outOfRange rest)
        else .ok (.float ⟨negative, .zero⟩, rest.dropWhile isDigit)

/-- Whether a byte starts an exponent. -/
def isExponentMark (b : UInt8) : Bool :=
  b == 0x65 || b == 0x45

/-- Reads the digits after a point, the point already taken, and makes the number. -/
def readFraction (negative : Bool) (significand : Nat) (exponent : Int) (input : Bytes) :
    Except Fault (Json × Bytes) :=
  let (significand, added, spare, rest) := takeDigits significand 0 input
  if added = 0 && spare = 0 then
    .error (.next (if rest.isEmpty then .endInValue else .badNumber) rest)
  else
    let exponent := exponent - added
    match rest with
    | b :: more =>
      if isExponentMark b then readExponent negative significand exponent more
      else assemble negative significand exponent rest
    | [] => assemble negative significand exponent rest

/-- The integer of a sign and a significand; minus zero and what is below -2⁶³ are floating point
numbers. -/
def integerOf (negative : Bool) (significand : Nat) : Json :=
  if !negative then .int significand
  else if significand = 0 || Nat.pow 2 63 < significand then .float ⟨true, .ofNat significand⟩
  else .int (-significand)

/-- Goes on after the whole digits of a number, `spare` of which did not fit. -/
def readNumberTail (negative : Bool) (significand spare : Nat) (input : Bytes) :
    Except Fault (Json × Bytes) :=
  match input with
  | b :: rest =>
    if b = 0x2E then readFraction negative significand spare rest
    else if isExponentMark b then readExponent negative significand spare rest
    else if spare = 0 then .ok (integerOf negative significand, input)
    else assemble negative significand spare input
  | [] =>
    if spare = 0 then .ok (integerOf negative significand, [])
    else assemble negative significand spare []

/-- Reads a number, its sign already taken. -/
def readNumber (negative : Bool) (input : Bytes) : Except Fault (Json × Bytes) :=
  match input with
  | [] => .error (.here .endInValue [])
  | b :: rest =>
    match digit? b with
    | none => .error (.here .badNumber rest)
    | some 0 =>
      match rest with
      | c :: _ =>
        if isDigit c then .error (.next .badNumber rest) else readNumberTail negative 0 0 rest
      | [] => readNumberTail negative 0 0 []
    | some d =>
      let (significand, _, spare, rest) := takeDigits d 0 rest
      readNumberTail negative significand spare rest

/-! ## Texts -/

/-- The number of a run of four hexadecimal digits. -/
def fourDigits? (a b c d : UInt8) : Option Nat := do
  let a ← Text.hexValue? (Char.ofNat a.toNat)
  let b ← Text.hexValue? (Char.ofNat b.toNat)
  let c ← Text.hexValue? (Char.ofNat c.toNat)
  let d ← Text.hexValue? (Char.ofNat d.toNat)
  return ((a * 16 + b) * 16 + c) * 16 + d

/-- Reads four hexadecimal digits. -/
def readFour (input : Bytes) : Except Fault (Nat × Bytes) :=
  match input with
  | a :: b :: c :: d :: rest =>
    match fourDigits? a b c d with
    | some n => .ok (n, rest)
    | none => .error (.here .badEscape rest)
  | _ => .error (.here .endInText [])

/-- Reads the digits of a code point escape and, for a leading surrogate, the second escape. -/
def readCodePoint (input : Bytes) : Except Fault (Char × Bytes) :=
  match readFour input with
  | .error f => .error f
  | .ok (n, rest) =>
    if 0xDC00 ≤ n && n ≤ 0xDFFF then .error (.here .loneSurrogate rest)
    else if n < 0xD800 || 0xDBFF < n then .ok (Char.ofNat n, rest)
    else match rest with
      | [] => .error (.here .endInText [])
      | b :: rest =>
        if b ≠ 0x5C then .error (.here .unfinishedEscape rest)
        else match rest with
          | [] => .error (.here .endInText [])
          | b :: rest =>
            if b ≠ 0x75 then .error (.here .unfinishedEscape rest)
            else match readFour rest with
              | .error f => .error f
              | .ok (m, rest) =>
                if m < 0xDC00 || 0xDFFF < m then .error (.here .loneSurrogate rest)
                else .ok (Char.ofNat ((n - 0xD800) * 1024 + (m - 0xDC00) + 0x10000), rest)

/-- Reads an escape, its backslash already taken. -/
def readEscape (input : Bytes) : Except Fault (Char × Bytes) :=
  match input with
  | [] => .error (.here .endInText [])
  | b :: rest =>
    if b = 0x22 then .ok ('"', rest)
    else if b = 0x5C then .ok ('\\', rest)
    else if b = 0x2F then .ok ('/', rest)
    else if b = 0x62 then .ok ('\x08', rest)
    else if b = 0x66 then .ok ('\x0c', rest)
    else if b = 0x6E then .ok ('\n', rest)
    else if b = 0x72 then .ok ('\r', rest)
    else if b = 0x74 then .ok ('\t', rest)
    else if b = 0x75 then readCodePoint rest
    else .error (.here .badEscape rest)

/-- Reading four digits leaves less. -/
theorem readFour_length {input rest : Bytes} {n : Nat} (h : readFour input = .ok (n, rest)) :
    rest.length < input.length := by
  unfold readFour at h
  repeat' split at h
  all_goals first
    | contradiction
    | (injection h with h; injection h with _ h; subst h; simp only [List.length_cons]; omega)

/-- Reading a code point leaves less. -/
theorem readCodePoint_length {input rest : Bytes} {c : Char}
    (h : readCodePoint input = .ok (c, rest)) : rest.length < input.length := by
  unfold readCodePoint at h
  split at h
  · contradiction
  next n r hn =>
    have := readFour_length hn
    repeat' split at h
    all_goals first
      | contradiction
      | (injection h with h; injection h with _ h; subst h; assumption)
      | (rename_i hm _
         have := readFour_length hm
         injection h with h; injection h with _ h; subst h
         simp only [List.length_cons] at *; omega)

/-- Reading an escape leaves less. -/
theorem readEscape_length {input rest : Bytes} {c : Char}
    (h : readEscape input = .ok (c, rest)) : rest.length < input.length := by
  unfold readEscape at h
  split at h
  · contradiction
  · repeat' split at h
    all_goals first
      | contradiction
      | (injection h with h; injection h with _ h; subst h; simp only [List.length_cons]; omega)
      | (have shorter := readCodePoint_length h; simp only [List.length_cons]; omega)

/-- Reads a text, its opening quote already taken; `done` holds its bytes backwards. -/
def readTextFrom (done : Bytes) (input : Bytes) : Except Fault (String × Bytes) :=
  match input with
  | [] => .error (.here .endInText [])
  | b :: rest =>
    if b = 0x22 then
      match Text.decode done.reverse with
      | .ok s => .ok (s, rest)
      | .error _ => .error (.here .badCodePoint rest)
    else if b = 0x5C then
      match h : readEscape rest with
      | .ok (c, more) =>
        have := readEscape_length h
        readTextFrom ((String.utf8EncodeChar c).reverse ++ done) more
      | .error f => .error f
    else if b < 0x20 then .error (.here .controlCharacter rest)
    else readTextFrom (b :: done) rest
termination_by input.length
decreasing_by all_goals simp only [List.length_cons]; omega

/-- Reads a text, its opening quote already taken. -/
def readText (input : Bytes) : Except Fault (String × Bytes) :=
  readTextFrom [] input

/-! ## Values -/

/-- Takes the colon between a key and its value. -/
def readColon (input : Bytes) : Except Fault Bytes :=
  match skipSpace input with
  | [] => .error (.next .endInObject [])
  | b :: rest => if b = 0x3A then .ok rest else .error (.next .noColon (b :: rest))

mutual

/-- Reads one value, with room for `depth` more open arrays and objects; `fuel` bounds the number of
nested calls. -/
def readValue (fuel depth : Nat) (input : Bytes) : Except Fault (Json × Bytes) :=
  match fuel with
  | 0 => .error (.next .tooDeep input)
  | fuel + 1 =>
    match skipSpace input with
    | [] => .error (.next .endInValue [])
    | b :: rest =>
      if b = 0x6E then do
        let rest ← readWord [0x75, 0x6C, 0x6C] rest
        return (.null, rest)
      else if b = 0x74 then do
        let rest ← readWord [0x72, 0x75, 0x65] rest
        return (.bool true, rest)
      else if b = 0x66 then do
        let rest ← readWord [0x61, 0x6C, 0x73, 0x65] rest
        return (.bool false, rest)
      else if b = 0x2D then readNumber true rest
      else if isDigit b then readNumber false (b :: rest)
      else if b = 0x22 then do
        let (s, rest) ← readText rest
        return (.str s, rest)
      else if b = 0x5B then
        match depth with
        | 0 => .error (.next .tooDeep (b :: rest))
        | depth + 1 => readItems fuel depth true [] rest
      else if b = 0x7B then
        match depth with
        | 0 => .error (.next .tooDeep (b :: rest))
        | depth + 1 => readFields fuel depth true [] rest
      else .error (.next .noValue (b :: rest))

/-- Reads the items of an array up to its end; `done` holds those before them backwards. -/
def readItems (fuel depth : Nat) (first : Bool) (done : List Json) (input : Bytes) :
    Except Fault (Json × Bytes) :=
  match fuel with
  | 0 => .error (.next .tooDeep input)
  | fuel + 1 =>
    match skipSpace input with
    | [] => .error (.next .endInList [])
    | b :: rest =>
      if b = 0x5D then .ok (.arr done.reverse, rest)
      else if first then
        match readValue fuel depth (b :: rest) with
        | .error f => .error f
        | .ok (v, rest) => readItems fuel depth false (v :: done) rest
      else if b = 0x2C then
        match skipSpace rest with
        | [] => .error (.next .endInValue [])
        | c :: more =>
          if c = 0x5D then .error (.next .trailingComma (c :: more))
          else
            match readValue fuel depth (c :: more) with
            | .error f => .error f
            | .ok (v, rest) => readItems fuel depth false (v :: done) rest
      else .error (.next .noListComma (b :: rest))

/-- Reads the fields of an object up to its end; `done` holds those before them, in order. -/
def readFields (fuel depth : Nat) (first : Bool) (done : List (String × Json)) (input : Bytes) :
    Except Fault (Json × Bytes) :=
  match fuel with
  | 0 => .error (.next .tooDeep input)
  | fuel + 1 =>
    match skipSpace input with
    | [] => .error (.next .endInObject [])
    | b :: rest =>
      if b = 0x7D then .ok (.obj done, rest)
      else if first then
        if b = 0x22 then readField fuel depth done rest
        else .error (.next .keyNotText (b :: rest))
      else if b = 0x2C then
        match skipSpace rest with
        | [] => .error (.next .endInValue [])
        | c :: more =>
          if c = 0x22 then readField fuel depth done more
          else if c = 0x7D then .error (.next .trailingComma (c :: more))
          else .error (.next .keyNotText (c :: more))
      else .error (.next .noObjectComma (b :: rest))

/-- Reads a field, the opening quote of its key already taken, and the fields after it. -/
def readField (fuel depth : Nat) (done : List (String × Json)) (input : Bytes) :
    Except Fault (Json × Bytes) :=
  match fuel with
  | 0 => .error (.next .tooDeep input)
  | fuel + 1 =>
    match readText input with
    | .error f => .error f
    | .ok (key, rest) =>
      match readColon rest with
      | .error f => .error f
      | .ok rest =>
        match readValue fuel depth rest with
        | .error f => .error f
        | .ok (v, rest) => readFields fuel depth false (setField key v done) rest

end

/-- The most arrays and objects that may be open at once. -/
def maxDepth : Nat := 127

/-- The one value that a byte string holds, with blanks around it. -/
def readDocument (input : Bytes) : Except Fault Json :=
  match readValue (3 * input.length + 3) maxDepth input with
  | .error f => .error f
  | .ok (v, rest) =>
    match skipSpace rest with
    | [] => .ok v
    | b :: more => .error (.next .trailingCharacters (b :: more))

/-! ## Positions -/

/-- A problem and its place. -/
structure Complaint where
  /-- What is wrong. -/
  problem : Problem
  /-- The line, counted from one. -/
  line : Nat
  /-- The byte within the line, counted from one. -/
  column : Nat
  deriving Repr, DecidableEq

/-- The wording of a complaint. -/
def Complaint.message (c : Complaint) : String :=
  s!"{c.problem.message} at line {c.line} column {c.column}"

/-- The place of the fault within the whole input. -/
def Fault.locate (f : Fault) (input : Bytes) : Complaint :=
  let taken := input.length - f.rest.length
  let before := input.take (if f.ahead then min input.length (taken + 1) else taken)
  { problem := f.problem
    line := before.count 0x0A + 1
    column := (before.reverse.takeWhile (· != 0x0A)).length }

/-- The one value that a byte string holds, or the complaint about it. -/
def ofBytes (input : Bytes) : Except Complaint Json :=
  match readDocument input with
  | .ok v => .ok v
  | .error f => .error (f.locate input)

/-- The one value that a text holds, or the complaint about it. -/
def ofText (s : String) : Except Complaint Json :=
  ofBytes (Text.encode s)

end LintPool.Json
