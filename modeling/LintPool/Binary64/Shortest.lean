import LintPool.Binary64.Basic

set_option autoImplicit false

/-!
# The fewest digits that read back

Of all decimals that round to a given number of the format, a printer wants one with the fewest
digits, and of those the nearest. Grids of one, two, … seventeen digits are tried in turn; on each
the two points that enclose the number are enough, because if any point of a grid rounds to the
number, one of these two does.

## Main definitions

* `LintPool.Decimal` — digits and the place of the first one.
* `LintPool.Magnitude.shortest` — the decimal of a finite, positive number.
-/

namespace LintPool

/-- The number `0.d₁d₂… · 10 ^ (exponent + 1)`: `digits` as one natural number, and the power of
ten of its first digit. -/
structure Decimal where
  /-- All digits as one number. -/
  digits : Nat
  /-- The power of ten of the first digit. -/
  exponent : Int
  deriving Repr, DecidableEq

namespace Magnitude

/-- The numerator of `units` over 2¹⁰⁷⁴ on a grid whose step is ten to the power `step`, with the
denominator that goes with it. -/
def onGrid (units : Nat) (step : Int) : Nat × Nat :=
  if 0 ≤ step then (units, oneUnits * Nat.pow 10 step.toNat)
  else (units * Nat.pow 10 (-step).toNat, oneUnits)

/-- The power of ten of the first digit of a positive number of units: the largest `p` in the range
`low … low + fuel` with `10 ^ p ≤ units / 2¹⁰⁷⁴`. -/
def leadingPower (units : Nat) (low : Int) : Nat → Int
  | 0 => low
  | fuel + 1 =>
    let (num, den) := onGrid units (low + 1)
    if den ≤ num then leadingPower units (low + 1) fuel else low

/-- A first guess, never too large, of the power of ten of the first digit. -/
def leadingGuess (units : Nat) : Int :=
  ((units.log2 : Int) - unitPlaces) * 30103 / 100000 - 2

/-- Whether the point `d` of a grid rounds to `units`: it lies within half the gap to each
neighbour, an end of that range counting if the significand is even. Everything is doubled twice,
so that halves of the narrower gap below a power of two stay whole. -/
def roundsTo (units : Nat) (step : Int) (d : Nat) : Bool :=
  let (num, den) := onGrid units step
  let e := coarseness units
  let gap := Nat.pow 2 e
  let significand := units / gap
  let lowGap := if significand = Nat.pow 2 52 ∧ 0 < e then gap else 2 * gap
  -- the point in quarter units, and the two ends, all over one denominator
  let scale := if 0 ≤ step then 1 else Nat.pow 10 (-step).toNat
  let point := 4 * d * den
  let low := 4 * num - lowGap * scale
  let high := 4 * num + 2 * gap * scale
  if significand % 2 = 0 then low ≤ point && point ≤ high else low < point && point < high

/-- The nearest point of a grid that rounds to `units`, if either neighbour does. -/
def gridPoint? (units : Nat) (step : Int) : Option Nat :=
  let (num, den) := onGrid units step
  let below := num / den
  let above := below + 1
  let okBelow := below ≠ 0 && roundsTo units step below
  let okAbove := roundsTo units step above
  if okBelow && okAbove then
    let r := num % den
    if 2 * r < den then some below
    else if den < 2 * r then some above
    else if below % 2 = 0 then some below else some above
  else if okBelow then some below
  else if okAbove then some above
  else none

/-- Tries grids of `count`, `count + 1`, … digits. -/
def shortestFrom (units : Nat) (power : Int) (count : Nat) : Nat → Decimal
  | 0 => ⟨(onGrid units (power - count)).1 / (onGrid units (power - count)).2, power⟩
  | fuel + 1 =>
    match gridPoint? units (power - count) with
    | some d => if d = Nat.pow 10 (count + 1) then ⟨1, power + 1⟩ else ⟨d, power⟩
    | none => shortestFrom units power (count + 1) fuel

/-- The decimal with the fewest digits that rounds to a positive number of units, the nearest of
those. -/
def shortest (units : Nat) : Decimal :=
  shortestFrom units (leadingPower units (leadingGuess units) 6) 0 17

end Magnitude

end LintPool
