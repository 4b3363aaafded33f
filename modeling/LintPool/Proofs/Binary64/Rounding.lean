import Mathlib.Tactic.Ring
import LintPool.Binary64.Basic

set_option autoImplicit false

/-!
# Rounding keeps the order

A product is computed exactly and rounded once. Rounding never turns two numbers around, and leaves
those alone that the format can hold, and from these two laws it follows that products keep the
order as well: also where they overflow, as long as none of the factors is zero.

## Main definitions

* `LintPool.Magnitude.nearestUnits` — the units nearest to a quotient, were there no largest number.
* `LintPool.Magnitude.Significant` — a number of units with at most 53 significant bits.
* `LintPool.Magnitude.Rounded` — what the format can hold.

## Main results

* `LintPool.Magnitude.nearestUnits_mono`, `LintPool.Magnitude.nearestUnits_of_significant` —
  rounding keeps the order, and numbers that need no rounding.
* `LintPool.Magnitude.mul_le_mul` — products of numbers from one on keep the order.
-/

namespace LintPool

/-! ## Rounded quotients -/

/-- A quotient is rounded down or to the next number. -/
lemma roundQuotient_cases (num den : Nat) :
    roundQuotient num den = num / den ∨ roundQuotient num den = num / den + 1 := by
  unfold roundQuotient
  dsimp only
  split_ifs <;> simp

/-- A quotient is rounded the way its remainder says. -/
lemma roundQuotient_le_of_div_eq {a b den : Nat} (h : a ≤ b) (hdiv : a / den = b / den) :
    roundQuotient a den ≤ roundQuotient b den := by
  have hmod : a % den ≤ b % den := by
    have ha := Nat.div_add_mod a den
    have hb := Nat.div_add_mod b den
    rw [hdiv] at ha
    omega
  unfold roundQuotient
  dsimp only
  rw [hdiv]
  split_ifs <;> omega

/-- Rounding a quotient keeps the order. -/
lemma roundQuotient_mono {a b : Nat} (h : a ≤ b) (den : Nat) :
    roundQuotient a den ≤ roundQuotient b den := by
  rcases Nat.lt_or_eq_of_le (Nat.div_le_div_right (c := den) h) with hlt | heq
  · have ha := roundQuotient_cases a den
    have hb := roundQuotient_cases b den
    omega
  · exact roundQuotient_le_of_div_eq h heq

/-- A quotient without a remainder is not rounded. -/
lemma roundQuotient_mul {den : Nat} (hden : 0 < den) (q : Nat) :
    roundQuotient (q * den) den = q := by
  have hr : q * den % den = 0 := Nat.mul_mod_left q den
  have hq : q * den / den = q := Nat.mul_div_cancel q hden
  unfold roundQuotient
  dsimp only
  rw [hr, hq, if_pos (by omega)]

namespace Magnitude

/-! ## Significant bits -/

/-- Beyond its coarseness a number has at most 53 bits. -/
lemma lt_two_pow_coarseness (n : Nat) : n < 2 ^ (53 + coarseness n) := by
  refine lt_of_lt_of_le Nat.lt_log2_self (Nat.pow_le_pow_right (by decide) ?_)
  unfold coarseness
  omega

/-- Beyond a coarseness that is not zero a number has no fewer than 53 bits. -/
lemma two_pow_coarseness_le {n : Nat} (h : coarseness n ≠ 0) : 2 ^ (52 + coarseness n) ≤ n := by
  have hlog : 52 + coarseness n = n.log2 := by
    unfold coarseness at h ⊢
    omega
  have hn : n ≠ 0 := by
    rintro rfl
    exact h rfl
  rw [hlog]
  exact Nat.log2_self_le hn

/-- A number that has at most 53 bits beyond some place is no coarser than that. -/
lemma coarseness_le {n k : Nat} (h : n < 2 ^ (53 + k)) : coarseness n ≤ k := by
  by_contra hlt
  have hpow : 2 ^ (53 + k) ≤ 2 ^ (52 + coarseness n) :=
    Nat.pow_le_pow_right (by decide) (by omega)
  have hle : 2 ^ (52 + coarseness n) ≤ n := two_pow_coarseness_le (by omega)
  exact absurd h (Nat.not_lt.2 (Nat.le_trans hpow hle))

/-- A greater number is no less coarse. -/
lemma coarseness_mono {m n : Nat} (h : m ≤ n) : coarseness m ≤ coarseness n :=
  coarseness_le (lt_of_le_of_lt h (lt_two_pow_coarseness n))

/-- A number of units has at most 53 significant bits. -/
def Significant (units : Nat) : Prop := ∃ m e, m < 2 ^ 53 ∧ units = m * 2 ^ e

/-- A number with one more bit, all of them zero but the first, will do as well. -/
lemma significant_of_le {m : Nat} (hm : m ≤ 2 ^ 53) (e : Nat) : Significant (m * 2 ^ e) := by
  rcases Nat.lt_or_eq_of_le hm with hlt | rfl
  · exact ⟨m, e, hlt, rfl⟩
  · exact ⟨2 ^ 52, e + 1, by decide, by ring⟩

/-! ## The nearest units -/

/-- The units nearest to a quotient, were there no largest number. -/
def nearestUnits (num den : Nat) : Nat :=
  roundQuotient num (den * 2 ^ coarseness (num / den)) * 2 ^ coarseness (num / den)

/-- A number of the format is the nearest, unless that is too large. -/
lemma ofUnitQuotient_eq (num den : Nat) :
    ofUnitQuotient num den =
      if nearestUnits num den < overflowUnits then .finite (nearestUnits num den) else .infinite :=
  rfl

section

variable {den : Nat}

/-- The nearest units need no more bits than the quotient, or they are the next power of two. -/
lemma roundQuotient_coarseness_le (hden : 0 < den) (num : Nat) :
    roundQuotient num (den * 2 ^ coarseness (num / den)) ≤ 2 ^ 53 := by
  set e := coarseness (num / den) with he
  have hpos : 0 < den * 2 ^ e := Nat.mul_pos hden (Nat.two_pow_pos e)
  have hnum : num ≤ 2 ^ 53 * (den * 2 ^ e) := by
    have hlt : num < 2 ^ (53 + e) * den :=
      (Nat.div_lt_iff_lt_mul hden).1 (lt_two_pow_coarseness (num / den))
    calc num ≤ 2 ^ (53 + e) * den := hlt.le
      _ = 2 ^ 53 * (den * 2 ^ e) := by ring
  calc roundQuotient num (den * 2 ^ e)
      ≤ roundQuotient (2 ^ 53 * (den * 2 ^ e)) (den * 2 ^ e) := roundQuotient_mono hnum _
    _ = 2 ^ 53 := roundQuotient_mul hpos _

/-- The nearest units have at most 53 significant bits. -/
lemma significant_nearestUnits (hden : 0 < den) (num : Nat) : Significant (nearestUnits num den) :=
  significant_of_le (roundQuotient_coarseness_le hden num) _

/-- The nearest units lie below the next power of two, or are equal to it. -/
lemma nearestUnits_le (hden : 0 < den) (num : Nat) :
    nearestUnits num den ≤ 2 ^ (53 + coarseness (num / den)) := by
  rw [Nat.pow_add]
  exact Nat.mul_le_mul_right _ (roundQuotient_coarseness_le hden num)

/-- The nearest units of a coarse quotient are not below its own power of two. -/
lemma le_nearestUnits (hden : 0 < den) {num : Nat} (h : coarseness (num / den) ≠ 0) :
    2 ^ (52 + coarseness (num / den)) ≤ nearestUnits num den := by
  set e := coarseness (num / den) with he
  have hpos : 0 < den * 2 ^ e := Nat.mul_pos hden (Nat.two_pow_pos e)
  have hnum : 2 ^ 52 * (den * 2 ^ e) ≤ num := by
    have hle : 2 ^ (52 + e) * den ≤ num :=
      (Nat.le_div_iff_mul_le hden).1 (two_pow_coarseness_le h)
    calc 2 ^ 52 * (den * 2 ^ e) = 2 ^ (52 + e) * den := by ring
      _ ≤ num := hle
  have hround : 2 ^ 52 ≤ roundQuotient num (den * 2 ^ e) :=
    calc 2 ^ 52 = roundQuotient (2 ^ 52 * (den * 2 ^ e)) (den * 2 ^ e) :=
          (roundQuotient_mul hpos _).symm
      _ ≤ roundQuotient num (den * 2 ^ e) := roundQuotient_mono hnum _
  rw [Nat.pow_add]
  exact Nat.mul_le_mul_right _ hround

/-- **Rounding keeps the order.** Two quotients of one coarseness are rounded on one grid; of two
quotients of different coarseness, a power of two lies between the roundings. -/
theorem nearestUnits_mono (hden : 0 < den) {a b : Nat} (h : a ≤ b) :
    nearestUnits a den ≤ nearestUnits b den := by
  have hcoarse : coarseness (a / den) ≤ coarseness (b / den) :=
    coarseness_mono (Nat.div_le_div_right h)
  rcases Nat.lt_or_eq_of_le hcoarse with hlt | heq
  · calc nearestUnits a den ≤ 2 ^ (53 + coarseness (a / den)) := nearestUnits_le hden a
      _ ≤ 2 ^ (52 + coarseness (b / den)) := Nat.pow_le_pow_right (by decide) (by omega)
      _ ≤ nearestUnits b den := le_nearestUnits hden (by omega)
  · unfold nearestUnits
    rw [heq]
    exact Nat.mul_le_mul_right _ (roundQuotient_mono h _)

/-- **What has at most 53 significant bits is not rounded.** -/
theorem nearestUnits_of_significant (hden : 0 < den) {units : Nat} (h : Significant units) :
    nearestUnits (units * den) den = units := by
  obtain ⟨m, k, hm, rfl⟩ := h
  have hquotient : m * 2 ^ k * den / den = m * 2 ^ k := Nat.mul_div_cancel _ hden
  have hcoarse : coarseness (m * 2 ^ k) ≤ k := by
    refine coarseness_le ?_
    rw [Nat.pow_add]
    exact Nat.mul_lt_mul_of_pos_right hm (Nat.two_pow_pos k)
  obtain ⟨j, hj⟩ := Nat.exists_eq_add_of_le' hcoarse
  rw [nearestUnits, hquotient]
  generalize coarseness (m * 2 ^ k) = e at hj
  subst hj
  have hpos : 0 < den * 2 ^ e := Nat.mul_pos hden (Nat.two_pow_pos e)
  have hexact : m * 2 ^ (j + e) * den = m * 2 ^ j * (den * 2 ^ e) := by ring
  rw [hexact, roundQuotient_mul hpos]
  ring

end

/-! ## The order -/

/-- Numbers are at most themselves, unless they are none. -/
lemma le_refl {m : Magnitude} (h : m ≠ .nan) : m.le m := by
  cases m with
  | finite u => exact decide_eq_true (Nat.le_refl u)
  | infinite => rfl
  | nan => exact absurd rfl h

/-- The order is transitive. -/
lemma le_trans {a b c : Magnitude} (hab : a.le b) (hbc : b.le c) : a.le c := by
  cases a <;> cases b <;> cases c <;> simp_all [le]
  omega

/-- No number is greater than infinity. -/
lemma le_infinite {m : Magnitude} (h : m ≠ .nan) : m.le .infinite := by
  cases m with
  | nan => exact absurd rfl h
  | _ => rfl

/-- What is at most a finite number is finite. -/
lemma le_finite_iff {m : Magnitude} {v : Nat} : m.le (.finite v) ↔ ∃ u, m = .finite u ∧ u ≤ v := by
  cases m <;> simp [le]

/-- What is at least a finite number is a finite number that is, or infinity. -/
lemma finite_le_iff {u : Nat} {m : Magnitude} :
    (finite u).le m ↔ (∃ v, m = .finite v ∧ u ≤ v) ∨ m = .infinite := by
  cases m <;> simp [le]

/-- One is not zero. -/
lemma oneUnits_pos : 0 < oneUnits := by
  unfold oneUnits
  generalize unitPlaces = k
  exact Nat.two_pow_pos k

/-! ## Numbers of the format -/

/-- What the format can hold. -/
inductive Rounded : Magnitude → Prop
  /-- A number with at most 53 significant bits that is not too large. -/
  | finite {units : Nat} (hbits : Significant units) (hbound : units < overflowUnits) :
    Rounded (.finite units)
  /-- Infinity. -/
  | infinite : Rounded .infinite
  /-- What is not a number. -/
  | nan : Rounded .nan

/-- One can be held. -/
lemma rounded_one : one.Rounded := by
  have hbits : Significant oneUnits := by
    unfold oneUnits
    generalize unitPlaces = k
    exact ⟨1, k, by decide, (Nat.one_mul _).symm⟩
  have hbound : oneUnits < overflowUnits := by
    unfold oneUnits overflowUnits
    generalize unitPlaces = k
    exact Nat.pow_lt_pow_right (by decide) (by omega)
  exact .finite hbits hbound

section

variable {den : Nat}

/-- A quotient is rounded to a number, which can be held. -/
lemma rounded_ofUnitQuotient (hden : 0 < den) (num : Nat) :
    ofUnitQuotient num den ≠ .nan ∧ (ofUnitQuotient num den).Rounded := by
  rw [ofUnitQuotient_eq]
  cases Nat.lt_or_ge (nearestUnits num den) overflowUnits with
  | inl hlt =>
    rw [if_pos hlt]
    exact ⟨by rintro ⟨⟩, .finite (significant_nearestUnits hden num) hlt⟩
  | inr hge =>
    rw [if_neg (Nat.not_lt.2 hge)]
    exact ⟨by rintro ⟨⟩, .infinite⟩

/-- What can be held is not rounded. -/
lemma ofUnitQuotient_of_rounded (hden : 0 < den) {u : Nat} (h : (finite u).Rounded) :
    ofUnitQuotient (u * den) den = .finite u := by
  cases h with
  | finite hbits hbound =>
    rw [ofUnitQuotient_eq, nearestUnits_of_significant hden hbits, if_pos hbound]

/-- Rounding to a number of the format keeps the order. -/
lemma ofUnitQuotient_le (hden : 0 < den) {a b : Nat} (h : a ≤ b) :
    (ofUnitQuotient a den).le (ofUnitQuotient b den) := by
  have hmono := nearestUnits_mono hden h
  have hnum := (rounded_ofUnitQuotient hden a).1
  rw [ofUnitQuotient_eq] at hnum ⊢
  rw [ofUnitQuotient_eq]
  cases Nat.lt_or_ge (nearestUnits b den) overflowUnits with
  | inl hlt =>
    rw [if_pos hlt, if_pos (Nat.lt_of_le_of_lt hmono hlt)]
    exact decide_eq_true hmono
  | inr hge =>
    rw [if_neg (Nat.not_lt.2 hge)]
    exact le_infinite hnum

end

/-- What is not below a natural number is not below its rounding, if it can be held. -/
lemma ofNat_le {n u : Nat} (hu : (finite u).Rounded) (h : n * oneUnits ≤ u) :
    (ofNat n).le (.finite u) := by
  have hround : ofUnitQuotient u 1 = .finite u := by
    have hexact := ofUnitQuotient_of_rounded Nat.one_pos hu
    rwa [Nat.mul_one] at hexact
  rw [ofNat, ofQuotient, ← hround]
  exact ofUnitQuotient_le Nat.one_pos h

/-! ## Products -/

/-- The product of finite numbers is rounded once. -/
lemma finite_mul (u v : Nat) :
    (finite u).mul (finite v) = ofUnitQuotient (u * v) oneUnits := rfl

/-- A product is a rounded one, infinite, or none. -/
lemma mul_cases (a b : Magnitude) :
    (∃ num, a.mul b = ofUnitQuotient num oneUnits) ∨ a.mul b = .infinite ∨ a.mul b = .nan := by
  cases a with
  | finite u => cases b with
    | finite v => exact .inl ⟨u * v, rfl⟩
    | infinite => cases u with
      | zero => exact .inr (.inr rfl)
      | succ u => exact .inr (.inl rfl)
    | nan => exact .inr (.inr rfl)
  | infinite => cases b with
    | finite v => cases v with
      | zero => exact .inr (.inr rfl)
      | succ v => exact .inr (.inl rfl)
    | infinite => exact .inr (.inl rfl)
    | nan => exact .inr (.inr rfl)
  | nan => cases b <;> exact .inr (.inr rfl)

/-- A product can be held. -/
lemma rounded_mul (a b : Magnitude) : (a.mul b).Rounded := by
  rcases mul_cases a b with ⟨num, h⟩ | h | h
  · rw [h]
    exact (rounded_ofUnitQuotient oneUnits_pos num).2
  · rw [h]
    exact .infinite
  · rw [h]
    exact .nan

/-- A product with infinity is infinite if the other factor is not below one. -/
lemma mul_infinite {m : Magnitude} (h : one.le m) :
    m.mul .infinite = .infinite ∧ Magnitude.infinite.mul m = .infinite := by
  rcases finite_le_iff.1 h with ⟨u, rfl, hu⟩ | rfl
  · cases u with
    | zero => exact absurd hu (Nat.not_le.2 oneUnits_pos)
    | succ u => exact ⟨rfl, rfl⟩
  · exact ⟨rfl, rfl⟩

/-- One times what can be held is just that. -/
lemma one_mul_of_rounded {m : Magnitude} (h : m.Rounded) : one.mul m = m := by
  cases m with
  | finite u => rw [one, finite_mul, Nat.mul_comm, ofUnitQuotient_of_rounded oneUnits_pos h]
  | infinite => exact (mul_infinite (le_refl (by rintro ⟨⟩))).1
  | nan => rfl

/-- A product of numbers that are not below one is a number. -/
lemma mul_ne_nan {a b : Magnitude} (ha : one.le a) (hb : one.le b) : a.mul b ≠ .nan := by
  rcases finite_le_iff.1 ha with ⟨u, rfl, -⟩ | rfl
  · rcases finite_le_iff.1 hb with ⟨v, rfl, -⟩ | rfl
    · rw [finite_mul]
      exact (rounded_ofUnitQuotient oneUnits_pos _).1
    · rw [(mul_infinite ha).1]
      rintro ⟨⟩
  · rw [(mul_infinite hb).2]
    rintro ⟨⟩

/-- **Products of numbers that are not below one keep the order**, whether they overflow or not. -/
theorem mul_le_mul {a b c d : Magnitude} (ha : one.le a) (hb : one.le b) (hac : a.le c)
    (hbd : b.le d) : (a.mul b).le (c.mul d) := by
  have hc : one.le c := le_trans ha hac
  have hd : one.le d := le_trans hb hbd
  rcases finite_le_iff.1 hc with ⟨w, rfl, -⟩ | rfl
  · rcases finite_le_iff.1 hd with ⟨x, rfl, -⟩ | rfl
    · obtain ⟨u, rfl, huw⟩ := le_finite_iff.1 hac
      obtain ⟨v, rfl, hvx⟩ := le_finite_iff.1 hbd
      rw [finite_mul, finite_mul]
      exact ofUnitQuotient_le oneUnits_pos (Nat.mul_le_mul huw hvx)
    · rw [(mul_infinite hc).1]
      exact le_infinite (mul_ne_nan ha hb)
  · rw [(mul_infinite hd).2]
    exact le_infinite (mul_ne_nan ha hb)

/-- A product grows with a factor that is not below one, if it stays finite. -/
lemma mul_le_mul_left (a : Magnitude) {b d : Magnitude} (hb : one.le b) (hbd : b.le d)
    (hfinite : (a.mul d).isFinite) : (a.mul b).le (a.mul d) := by
  have hd : one.le d := le_trans hb hbd
  rcases finite_le_iff.1 hd with ⟨x, rfl, hx⟩ | rfl
  · obtain ⟨v, rfl, hvx⟩ := le_finite_iff.1 hbd
    cases a with
    | finite u =>
      rw [finite_mul, finite_mul]
      exact ofUnitQuotient_le oneUnits_pos (Nat.mul_le_mul_left u hvx)
    | infinite =>
      rw [(mul_infinite hd).2] at hfinite
      cases hfinite
    | nan => cases hfinite
  · cases a with
    | finite u => cases u <;> cases hfinite
    | _ => cases hfinite

/-- A product of numbers that are not below one is not below one. -/
lemma one_le_mul {a b : Magnitude} (ha : one.le a) (hb : one.le b) : one.le (a.mul b) := by
  have hone : one.le one := le_refl (by rintro ⟨⟩)
  have hmul := mul_le_mul hone hone ha hb
  rwa [one_mul_of_rounded rounded_one] at hmul

end Magnitude

end LintPool
