import LintPool.Binary64.Basic
import LintPool.Text.Hex

set_option autoImplicit false

/-!
# Numbers, dates and truth values in TOML

A scalar that is no text is a run of characters without blanks, commas and brackets; only a date and
a time of day may have one space between them.

## Main definitions

* `LintPool.Toml.Scalar` — such a value.
* `LintPool.Toml.integer?`, `LintPool.Toml.float?` — numbers.
* `LintPool.Toml.isMoment` — dates and times of day.
* `LintPool.Toml.scalar?` — any of them.
-/

namespace LintPool.Toml

/-- A value that is neither a text nor made of other values. -/
inductive Scalar where
  | flag (b : Bool)
  | integer (i : Int)
  | float (x : Binary64)
  /-- A date, a time of day, or both. -/
  | moment
  deriving Repr, DecidableEq

/-- The digits of a run of digits; an underscore may stand between two of them. -/
def digitRun? (isDigit : Char → Bool) : List Char → Option (List Char)
  | [] => none
  | [c] => if isDigit c then some [c] else none
  | c :: '_' :: rest =>
    if isDigit c then (digitRun? isDigit rest).map (c :: ·) else none
  | c :: rest =>
    if isDigit c then (digitRun? isDigit rest).map (c :: ·) else none

/-- The number of a run of digits in a base. -/
def numberIn (base : Nat) (digits : List Char) : Nat :=
  digits.foldl (fun n c => n * base + (Text.hexValue? c).getD 0) 0

/-- The digits of a whole decimal number, which has no leading zeros. -/
def wholeDigits? (cs : List Char) : Option (List Char) :=
  match digitRun? Char.isDigit cs with
  | some ('0' :: _ :: _) => none
  | ds => ds

/-- Whether the sign is minus, and what follows the sign. -/
def splitSign : List Char → Bool × List Char
  | '+' :: rest => (false, rest)
  | '-' :: rest => (true, rest)
  | cs => (false, cs)

/-- The natural number of digits in a base other than ten. -/
def based? (base : Nat) (cs : List Char) : Option Nat :=
  (digitRun? (fun c => match Text.hexValue? c with
    | some n => n < base
    | none => false) cs).map (numberIn base)

/-- The integer of a run of characters: decimal with an optional sign, or in another base. -/
def integer? : List Char → Option Int
  | '0' :: 'x' :: cs => (based? 16 cs).map Int.ofNat
  | '0' :: 'o' :: cs => (based? 8 cs).map Int.ofNat
  | '0' :: 'b' :: cs => (based? 2 cs).map Int.ofNat
  | cs =>
    let (negative, ds) := splitSign cs
    (wholeDigits? ds).map fun ds => if negative then -(numberIn 10 ds : Int) else numberIn 10 ds

/-- Whether an integer can be read at all: some 128-bit word holds it. -/
def isHeld (i : Int) : Bool :=
  -(Nat.pow 2 127) ≤ i && i < Nat.pow 2 128

/-- The number nearest to `significand · 10 ^ exponent`, where the significand has `digits` digits;
an exponent far out of range is decided without computing the power. -/
def nearest (significand digits : Nat) (exponent : Int) : Magnitude :=
  if significand = 0 then .zero
  else if 400 < exponent + digits then .infinite
  else if exponent + digits < -400 then .zero
  else if 0 ≤ exponent then .ofQuotient (significand * Nat.pow 10 exponent.toNat) 1
  else .ofQuotient significand (Nat.pow 10 (-exponent).toNat)

/-- The exponent of a number: digits with an optional sign. -/
def exponent? (cs : List Char) : Option Int :=
  let (negative, ds) := splitSign cs
  (digitRun? Char.isDigit ds).map fun ds =>
    if negative then -(numberIn 10 ds : Int) else numberIn 10 ds

/-- The digits after a point, if there is one. -/
def fractionDigits? : List Char → Option (List Char)
  | [] => some []
  | _ :: cs => digitRun? Char.isDigit cs

/-- The number of whole digits, a fraction and an exponent, at least one of the last two; one that
overflows is none. -/
def decimal? (negative : Bool) (cs : List Char) : Option Binary64 := do
  let isMark := fun c : Char => c = 'e' || c = 'E'
  let mantissa := cs.takeWhile (!isMark ·)
  let tail := cs.dropWhile (!isMark ·)
  let whole := mantissa.takeWhile (· ≠ '.')
  let fraction := mantissa.dropWhile (· ≠ '.')
  if tail.isEmpty && fraction.isEmpty then none
  let wholeDs ← wholeDigits? whole
  let fractionDs ← fractionDigits? fraction
  let e ← if tail.isEmpty then some 0 else exponent? tail.tail
  let ds := wholeDs ++ fractionDs
  let m := nearest (numberIn 10 ds) ds.length (e - fractionDs.length)
  if m.isFinite then some ⟨negative, m⟩ else none

/-- The floating point number of a run of characters. -/
def float? (cs : List Char) : Option Binary64 :=
  let (negative, rest) := splitSign cs
  if rest = "inf".toList then some ⟨negative, .infinite⟩
  else if rest = "nan".toList then some ⟨negative, .nan⟩
  else decimal? negative rest

/-! ## Dates -/

/-- The number of two digits. -/
def twoDigits? (a b : Char) : Option Nat :=
  if a.isDigit && b.isDigit then some (numberIn 10 [a, b]) else none

/-- Whether a year has a twenty-ninth of February. -/
def isLeapYear (year : Nat) : Bool :=
  year % 4 = 0 && (year % 100 ≠ 0 || year % 400 = 0)

/-- The number of days in a month. -/
def daysIn (year month : Nat) : Nat :=
  if month = 2 then (if isLeapYear year then 29 else 28)
  else if month ∈ [4, 6, 9, 11] then 30 else 31

/-- Whether numbers of a year, month and day make a date. -/
def isDate (year month day : Nat) : Bool :=
  1 ≤ month && month ≤ 12 && 1 ≤ day && day ≤ daysIn year month

/-- What follows a date, if one stands at the front. -/
def afterDate? : List Char → Option (List Char)
  | a :: b :: c :: d :: '-' :: e :: f :: '-' :: g :: h :: rest =>
    match twoDigits? a b, twoDigits? c d, twoDigits? e f, twoDigits? g h with
    | some century, some year, some month, some day =>
      if isDate (century * 100 + year) month day then some rest else none
    | _, _, _, _ => none
  | _ => none

/-- What follows the digits of a fraction of a second, if there are any. -/
def afterFraction? : List Char → Option (List Char)
  | '.' :: c :: rest => if c.isDigit then some (rest.dropWhile Char.isDigit) else none
  | '.' :: [] => none
  | cs => some cs

/-- What follows the seconds of a time of day; they may be left out, and may be sixty. -/
def afterSeconds? : List Char → Option (List Char)
  | ':' :: a :: b :: rest =>
    match twoDigits? a b with
    | some second => if second ≤ 60 then afterFraction? rest else none
    | none => none
  | ':' :: _ => none
  | cs => some cs

/-- What follows hours and minutes, if they stand at the front. -/
def afterMinutes? : List Char → Option (List Char)
  | a :: b :: ':' :: c :: d :: rest =>
    match twoDigits? a b, twoDigits? c d with
    | some hour, some minute => if hour ≤ 23 && minute ≤ 59 then some rest else none
    | _, _ => none
  | _ => none

/-- What follows a time of day. -/
def afterTime? (cs : List Char) : Option (List Char) :=
  (afterMinutes? cs).bind afterSeconds?

/-- Whether a text is the distance of a local time from universal time, or empty. -/
def isOffset : List Char → Bool
  | [] => true
  | ['Z'] => true
  | ['z'] => true
  | '+' :: cs => afterMinutes? cs = some []
  | '-' :: cs => afterMinutes? cs = some []
  | _ => false

/-- Whether a text is a date, a time of day, or both. -/
def isMoment (cs : List Char) : Bool :=
  match afterDate? cs with
  | some [] => true
  | some (c :: rest) =>
    (c = 'T' || c = 't' || c = ' ') && match afterTime? rest with
      | some offset => isOffset offset
      | none => false
  | none => afterTime? cs = some []

/-! ## Scalars -/

/-- The scalar of a run of characters. -/
def scalar? (cs : List Char) : Option Scalar :=
  if cs = "true".toList then some (.flag true)
  else if cs = "false".toList then some (.flag false)
  else match integer? cs with
    | some i => if isHeld i then some (.integer i) else none
    | none => match float? cs with
      | some x => some (.float x)
      | none => if isMoment cs then some .moment else none

/-- Whether a character ends a run of characters. -/
def endsRun (c : Char) : Bool :=
  c ∈ [' ', '\t', '\n', '\r', ',', ']', '\x7d', '#']

/-- The run of characters at the front, and what follows it; a date and a time of day with a space
between them are one run. -/
def takeRun (input : List Char) : List Char × List Char :=
  let run := input.takeWhile (!endsRun ·)
  match input.dropWhile (!endsRun ·) with
  | ' ' :: c :: rest =>
    if afterDate? run = some [] && c.isDigit then
      (run ++ ' ' :: (c :: rest).takeWhile (!endsRun ·), (c :: rest).dropWhile (!endsRun ·))
    else (run, ' ' :: c :: rest)
  | rest => (run, rest)

end LintPool.Toml
