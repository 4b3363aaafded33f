import LintPool.Binary64.Shortest

set_option autoImplicit false

/-!
# The text of a floating point number

A number is written with the fewest digits that read back, and always so that it cannot be taken
for an integer: with a point, or with an exponent.

## Main definitions

* `LintPool.NumberFormat` — which numbers are written without an exponent.
* `LintPool.Binary64.render` — the text of a finite number in a format.
-/

namespace LintPool

/-- The powers of ten of the first digit that are written without an exponent. -/
structure NumberFormat where
  /-- Whether a number whose first digit has this power of ten is written without an exponent. -/
  positional : Int → Bool

/-- All numbers are written without an exponent. -/
def NumberFormat.plain : NumberFormat := ⟨fun _ => true⟩

/-- Numbers from `10 ^ low` up to but not including `10 ^ (high + 1)` are written without an
exponent. -/
def NumberFormat.between (low high : Int) : NumberFormat := ⟨fun e => low ≤ e && e ≤ high⟩

namespace Decimal

/-- The digits as text. -/
def digitChars (d : Decimal) : List Char :=
  Nat.toDigits 10 d.digits

/-- The number without an exponent. -/
def positional (d : Decimal) : List Char :=
  let ds := d.digitChars
  if d.exponent < 0 then
    ['0', '.'] ++ List.replicate (-d.exponent - 1).toNat '0' ++ ds
  else
    let whole := d.exponent.toNat + 1
    let front := ds.take whole
    let back := ds.drop whole
    front ++ List.replicate (whole - front.length) '0'
      ++ '.' :: (if back.isEmpty then ['0'] else back)

/-- The number with an exponent, whose sign is always written. -/
def scientific (d : Decimal) : List Char :=
  let mantissa := match d.digitChars with
    | [] => []
    | [c] => [c]
    | c :: cs => c :: '.' :: cs
  let sign := if d.exponent < 0 then '-' else '+'
  mantissa ++ 'e' :: sign :: Nat.toDigits 10 d.exponent.natAbs

/-- The number in a format. -/
def render (d : Decimal) (format : NumberFormat) : List Char :=
  if format.positional d.exponent then d.positional else d.scientific

end Decimal

/-- The text of a finite number in a format. -/
def Binary64.render (x : Binary64) (format : NumberFormat) : String :=
  let text : List Char := match x.magnitude with
    | .finite 0 => ['0', '.', '0']
    | .finite units => (Magnitude.shortest units).render format
    | .infinite => ['i', 'n', 'f']
    | .nan => ['N', 'a', 'N']
  String.ofList (if x.negative then '-' :: text else text)

end LintPool
