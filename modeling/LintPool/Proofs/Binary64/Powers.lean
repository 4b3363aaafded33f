import LintPool.Proofs.Binary64.Rounding

set_option autoImplicit false

/-!
# Rounded powers grow

The power of a factor that is not below one grows with the exponent, although each of the products
it is made of is rounded, and consecutive exponents are made of different products. The reason is
how squaring and carrying go together: as long as the digits of the exponent are ones, the product
that has been collected is at most the current square, and adding one to the exponent trades it for
that square.

## Main results

* `LintPool.Magnitude.powerFrom_eq` — one digit of the exponent.
* `LintPool.Magnitude.powerFrom_mono_left` — a power grows with what has been collected.
* `LintPool.Magnitude.powerFrom_le_succ` — adding one to the exponent.
* `LintPool.Magnitude.power_mono` — a power grows with the exponent.
-/

namespace LintPool.Magnitude

/-! ## One digit of the exponent -/

/-- Nothing is multiplied for the exponent zero. -/
lemma powerFrom_zero (acc base : Magnitude) : powerFrom acc base 0 = acc := by
  rw [powerFrom]
  rfl

/-- The lowest digit of the exponent says whether the base is multiplied in; for the others the base
is squared. -/
lemma powerFrom_eq (acc base : Magnitude) (n : Nat) :
    powerFrom acc base n =
      powerFrom (if n % 2 = 1 then acc.mul base else acc) (base.mul base) (n / 2) := by
  rw [powerFrom]
  split
  · rename_i hlast
    rw [hlast, powerFrom_zero]
  · rfl

/-- An even exponent. -/
lemma powerFrom_double (acc base : Magnitude) (n : Nat) :
    powerFrom acc base (2 * n) = powerFrom acc (base.mul base) n := by
  rw [powerFrom_eq, if_neg (by omega), Nat.mul_div_cancel_left n (by decide)]

/-- An odd exponent. -/
lemma powerFrom_double_succ (acc base : Magnitude) (n : Nat) :
    powerFrom acc base (2 * n + 1) = powerFrom (acc.mul base) (base.mul base) n := by
  rw [powerFrom_eq, if_pos (by omega), show (2 * n + 1) / 2 = n by omega]

/-! ## Powers of factors that are not below one -/

/-- One is not below one. -/
lemma one_le_one : one.le one :=
  le_refl (by rintro ⟨⟩)

/-- What is not below one is a number, so at most itself. -/
lemma le_self {m : Magnitude} (h : one.le m) : m.le m := by
  refine le_refl ?_
  rintro rfl
  cases h

/-- A power of a factor that is not below one grows with what has been collected. -/
theorem powerFrom_mono_left (n : Nat) {acc acc' base : Magnitude} (hacc : one.le acc)
    (hbase : one.le base) (h : acc.le acc') :
    (powerFrom acc base n).le (powerFrom acc' base n) := by
  induction n using Nat.strongRecOn generalizing acc acc' base with
  | ind n ih =>
    have hsquare := one_le_mul hbase hbase
    rcases Nat.eq_zero_or_pos n with rfl | hpos
    · rwa [powerFrom_zero, powerFrom_zero]
    · rcases Nat.even_or_odd' n with ⟨m, rfl | rfl⟩
      · rw [powerFrom_double, powerFrom_double]
        exact ih m (by omega) hacc hsquare h
      · rw [powerFrom_double_succ, powerFrom_double_succ]
        have hnext : (acc.mul base).le (acc'.mul base) := mul_le_mul hacc hbase h (le_self hbase)
        exact ih m (by omega) (one_le_mul hacc hbase) hsquare hnext

/-- **Adding one to the exponent**, when what has been collected is at most the base.

**Proof sketch.** Induction on the digits of the exponent. If the lowest is zero, it becomes one,
and the base is collected where nothing was. If it is one, it becomes zero and the next digit is up:
what has been collected then is at most the base times itself, which is the next base. -/
theorem powerFrom_le_succ (n : Nat) {acc base : Magnitude} (hacc : one.le acc)
    (hbase : one.le base) (h : acc.le base) (hround : acc.le (one.mul base)) :
    (powerFrom acc base n).le (powerFrom one base (n + 1)) := by
  induction n using Nat.strongRecOn generalizing acc base with
  | ind n ih =>
    have hsquare := one_le_mul hbase hbase
    rcases Nat.even_or_odd' n with ⟨m, rfl | rfl⟩
    · rw [powerFrom_double, powerFrom_double_succ]
      exact powerFrom_mono_left m hacc hsquare hround
    · have hnext : (acc.mul base).le (base.mul base) := mul_le_mul hacc hbase h (le_self hbase)
      have hheld : (acc.mul base).le (one.mul (base.mul base)) := by
        rwa [one_mul_of_rounded (rounded_mul base base)]
      have hcarry : 2 * m + 1 + 1 = 2 * (m + 1) := by omega
      rw [powerFrom_double_succ, hcarry, powerFrom_double]
      exact ih m (by omega) (one_le_mul hacc hbase) hsquare hnext hheld

/-- **Powers of a factor that is not below one grow with the exponent.** -/
theorem power_mono {base : Magnitude} (hbase : one.le base) {m n : Nat} (h : m ≤ n) :
    (base.power m).le (base.power n) := by
  induction n, h using Nat.le_induction with
  | base => exact powerFrom_mono_left m one_le_one hbase one_le_one
  | succ n _ ih =>
    have hround : one.le (one.mul base) := one_le_mul one_le_one hbase
    exact le_trans ih (powerFrom_le_succ n one_le_one hbase hbase hround)

/-- A power of a factor that is not below one is not below one. -/
lemma one_le_power {base : Magnitude} (hbase : one.le base) (n : Nat) : one.le (base.power n) := by
  have hzero : base.power 0 = one := powerFrom_zero one base
  have hmono := power_mono hbase (Nat.zero_le n)
  rwa [hzero] at hmono

end LintPool.Magnitude
