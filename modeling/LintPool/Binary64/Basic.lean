set_option autoImplicit false

/-!
# Binary64: floating point numbers, exactly

A finite number of the format is a whole number of *units* of 2⁻¹⁰⁷⁴ with at most 53 significant
bits, and a sign. Operations compute the exact result in natural numbers and round it once, to the
nearest number of the format, a tie going to the even neighbour.

## Main definitions

* `LintPool.Magnitude` — a number without its sign: finite, infinite, or not a number.
* `LintPool.Magnitude.ofQuotient` — the number nearest to a quotient of natural numbers.
* `LintPool.Magnitude.mul`, `LintPool.Magnitude.div`, `LintPool.Magnitude.power` — arithmetic.
* `LintPool.Magnitude.lt`, `LintPool.Magnitude.le` — the order; nothing is below or above what is
  not a number.
* `LintPool.Binary64` — a magnitude and a sign, and its 64 bits.
-/

namespace LintPool

/-- The quotient of two natural numbers, rounded to the nearest, a tie to the even one. -/
def roundQuotient (num den : Nat) : Nat :=
  let q := num / den
  let r := num % den
  if 2 * r < den then q
  else if den < 2 * r then q + 1
  else if q % 2 = 0 then q else q + 1

/-- A number of the format without its sign. -/
inductive Magnitude where
  /-- `units` times 2⁻¹⁰⁷⁴. -/
  | finite (units : Nat)
  /-- Infinity. -/
  | infinite
  /-- Not a number. -/
  | nan
  deriving Repr, DecidableEq, Inhabited

namespace Magnitude

/-- The binary places of a unit: a unit is 2⁻¹⁰⁷⁴. -/
def unitPlaces : Nat := 1074

/-- One, in units. -/
def oneUnits : Nat := Nat.pow 2 unitPlaces

/-- The first number of units past the largest finite number: 2¹⁰²⁴. -/
def overflowUnits : Nat := Nat.pow 2 (1024 + unitPlaces)

/-- The binary places by which a number of units is coarser than a unit: the least `e` for which
`units / 2 ^ e` has at most 53 bits. -/
def coarseness (units : Nat) : Nat :=
  units.log2 - 52

/-- The number of the format nearest to `num / den` units. -/
def ofUnitQuotient (num den : Nat) : Magnitude :=
  let e := coarseness (num / den)
  let units := roundQuotient num (den * Nat.pow 2 e) * Nat.pow 2 e
  if units < overflowUnits then .finite units else .infinite

/-- The number of the format nearest to `num / den`. -/
def ofQuotient (num den : Nat) : Magnitude :=
  ofUnitQuotient (num * oneUnits) den

/-- The number of the format nearest to a natural number. -/
def ofNat (n : Nat) : Magnitude :=
  ofQuotient n 1

/-- Zero. -/
def zero : Magnitude := .finite 0

/-- One. -/
def one : Magnitude := .finite oneUnits

/-- Whether a number is finite. -/
def isFinite : Magnitude → Bool
  | .finite _ => true
  | _ => false

/-- The product, rounded; zero times infinity is not a number. -/
def mul : Magnitude → Magnitude → Magnitude
  | .finite a, .finite b => ofUnitQuotient (a * b) oneUnits
  | .nan, _ => .nan
  | _, .nan => .nan
  | .finite 0, .infinite => .nan
  | .infinite, .finite 0 => .nan
  | _, _ => .infinite

/-- The quotient, rounded; zero by zero and infinity by infinity are not numbers. -/
def div : Magnitude → Magnitude → Magnitude
  | .finite a, .finite b =>
    if b = 0 then (if a = 0 then .nan else .infinite) else ofUnitQuotient (a * oneUnits) b
  | .nan, _ => .nan
  | _, .nan => .nan
  | .infinite, .infinite => .nan
  | .infinite, .finite _ => .infinite
  | .finite _, .infinite => zero

/-- Whether the first number is less than the second. -/
def lt : Magnitude → Magnitude → Bool
  | .finite a, .finite b => a < b
  | .finite _, .infinite => true
  | _, _ => false

/-- Whether the first number is at most the second. -/
def le : Magnitude → Magnitude → Bool
  | .finite a, .finite b => a ≤ b
  | .finite _, .infinite => true
  | .infinite, .infinite => true
  | _, _ => false

/-- Multiplies into `acc` the squares of `base` that the binary digits of `n` select, lowest digit
first, each product and square rounded. -/
def powerFrom (acc base : Magnitude) (n : Nat) : Magnitude :=
  let acc := if n % 2 = 1 then acc.mul base else acc
  if h : n / 2 = 0 then acc else powerFrom acc (base.mul base) (n / 2)
termination_by n
decreasing_by exact Nat.div_lt_self (by omega) (by decide)

/-- The power of `base` to `n` by repeated squaring. -/
def power (base : Magnitude) (n : Nat) : Magnitude :=
  powerFrom one base n

end Magnitude

/-- A floating point number of 64 bits. -/
structure Binary64 where
  /-- Whether the sign is minus. -/
  negative : Bool
  /-- The number without its sign. -/
  magnitude : Magnitude
  deriving Repr, DecidableEq, Inhabited

namespace Binary64

/-- One. -/
def one : Binary64 := ⟨false, .one⟩

/-- The number of the format nearest to a natural number. -/
def ofNat (n : Nat) : Binary64 := ⟨false, .ofNat n⟩

/-- The number of the format nearest to an integer. -/
def ofInt (i : Int) : Binary64 := ⟨i < 0, .ofNat i.natAbs⟩

/-- Whether a number is neither infinite nor no number at all. -/
def isFinite (x : Binary64) : Bool := x.magnitude.isFinite

/-- Whether a number is less than one; what is not a number is not. -/
def lessThanOne (x : Binary64) : Bool :=
  match x.magnitude with
  | .nan => false
  | m => x.negative || m.lt .one

/-- The magnitude of the larger of a number and one; what is not a number counts for nothing. -/
def atLeastOne (x : Binary64) : Magnitude :=
  match x.magnitude with
  | .nan => .one
  | m => if x.negative || m.lt .one then .one else m

/-- The number with the given 64 bits. -/
def ofBits (bits : Nat) : Binary64 :=
  let exponent := bits / Nat.pow 2 52 % Nat.pow 2 11
  let fraction := bits % Nat.pow 2 52
  let magnitude : Magnitude :=
    if exponent = 0 then .finite fraction
    else if exponent = 2047 then (if fraction = 0 then .infinite else .nan)
    else .finite ((Nat.pow 2 52 + fraction) * Nat.pow 2 (exponent - 1))
  ⟨bits / Nat.pow 2 63 % 2 = 1, magnitude⟩

/-- The 64 bits of a number. -/
def toBits (x : Binary64) : Nat :=
  let low := match x.magnitude with
    | .finite units =>
      if units < Nat.pow 2 52 then units
      else
        let e := Magnitude.coarseness units
        (e + 1) * Nat.pow 2 52 + (units / Nat.pow 2 e - Nat.pow 2 52)
    | .infinite => 2047 * Nat.pow 2 52
    | .nan => 2047 * Nat.pow 2 52 + Nat.pow 2 51
  low + if x.negative then Nat.pow 2 63 else 0

end Binary64

end LintPool
