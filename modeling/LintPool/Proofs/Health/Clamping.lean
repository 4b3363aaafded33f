import LintPool.Proofs.Health.Windows

set_option autoImplicit false

/-!
# Settings that are clamped twice

Settings whose values make no sense together are repaired when they are normalized, and once more
when a policy is made of them. Both repairs come to the same threshold and to the same times, and
they come to the same factor unless that is infinite: normalized settings take an infinite factor
for one, and every suppression is as long as the first; a policy takes it as it is, and every
suppression but the first is the longest.

## Main definitions

* `LintPool.Binary64.infinity` — infinity, as a factor.
* `LintPool.CrashPolicy.Agrees` — two policies have the same threshold and the same windows.

## Main results

* `LintPool.CrashPolicy.backoff_normalized` — the factor after both repairs.
* `LintPool.CrashPolicy.window_of_backoff_one`, `LintPool.CrashPolicy.window_of_backoff_infinite` —
  the windows of the two factors that an infinite one is taken for.
* `LintPool.CrashPolicy.agrees_normalized_iff` — when the two repairs agree.
-/

namespace LintPool

namespace Binary64

/-- Infinity. -/
def infinity : Binary64 := ⟨false, .infinite⟩

/-- The larger of a finite number and one. -/
lemma atLeastOne_finite (negative : Bool) (units : Nat) :
    (Binary64.mk negative (.finite units)).atLeastOne =
      if (Binary64.mk negative (.finite units)).lessThanOne then .one else .finite units := rfl

/-- One is not below one. -/
lemma atLeastOne_one : one.atLeastOne = .one := by
  have hone : one.atLeastOne = if one.lessThanOne then Magnitude.one else .one :=
    atLeastOne_finite false Magnitude.oneUnits
  rw [hone, ite_self]

/-- A number that has been repaired counts for what it counts for without the repair, unless it is
infinity, which counts for one. -/
lemma atLeastOne_repaired (x : Binary64) :
    (if !x.isFinite || x.lessThanOne then one else x).atLeastOne =
      if x = infinity then .one else x.atLeastOne := by
  have hrepaired (h : x.isFinite = false) :
      (if !x.isFinite || x.lessThanOne then one else x).atLeastOne = .one := by
    rw [h, Bool.not_false, Bool.true_or, if_pos rfl, atLeastOne_one]
  obtain ⟨negative, magnitude⟩ := x
  cases magnitude with
  | finite units =>
    have hne : Binary64.mk negative (.finite units) ≠ infinity := by simp [infinity]
    rw [if_neg hne]
    simp only [isFinite, Magnitude.isFinite, Bool.not_true, Bool.false_or]
    split
    · rename_i hlow
      rw [atLeastOne_finite, if_pos hlow, atLeastOne_one]
    · rfl
  | infinite =>
    rw [hrepaired rfl]
    cases negative <;> rfl
  | nan =>
    rw [hrepaired rfl]
    cases negative <;> rfl

end Binary64

namespace Magnitude

/-- Powers of one are one. -/
lemma power_one (n : Nat) : one.power n = one := by
  have hone : one.mul one = one := one_mul_of_rounded rounded_one
  have hpower : powerFrom one one n = one := by
    induction n using Nat.strongRecOn with
    | ind n ih =>
      rcases Nat.even_or_odd' n with ⟨m, rfl | rfl⟩
      · rcases Nat.eq_zero_or_pos m with rfl | hpos
        · exact powerFrom_zero one one
        · rw [powerFrom_double, hone, ih m (by omega)]
      · rw [powerFrom_double_succ, hone, ih m (by omega)]
  exact hpower

/-- Powers of infinity are infinite. -/
lemma power_infinite {n : Nat} (h : 1 ≤ n) : Magnitude.infinite.power n = .infinite := by
  have hone : Magnitude.infinite.power 1 = .infinite := by
    have hdigit := powerFrom_double_succ one .infinite 0
    rwa [Nat.mul_zero, Nat.zero_add, powerFrom_zero, (mul_infinite one_le_one).1] at hdigit
  have hmono : (Magnitude.infinite.power 1).le (Magnitude.infinite.power n) := power_mono rfl h
  rw [hone] at hmono
  cases hpower : Magnitude.infinite.power n with
  | infinite => rfl
  | _ => rw [hpower] at hmono; cases hmono

/-- A product with infinity is not finite. -/
lemma isFinite_mul_infinite (m : Magnitude) : (m.mul .infinite).isFinite = false := by
  cases m with
  | finite u => cases u <;> rfl
  | _ => rfl

end Magnitude

attribute [ext] CrashPolicy

namespace CrashPolicy

/-- Two policies have the same threshold and the same windows. -/
structure Agrees (p q : CrashPolicy) : Prop where
  /-- As many crashes in a row lead to a suppression. -/
  threshold : p.threshold = q.threshold
  /-- Each suppression lasts as long. -/
  window : ∀ n, p.window n = q.window n

variable {p q : CrashPolicy}

/-! ## Windows of factors -/

/-- The first window is the same whatever the factor is. -/
lemma window_one_congr (hfirst : p.firstSecs = q.firstSecs)
    (hlongest : p.longestSecs = q.longestSecs) : p.window 1 = q.window 1 := by
  have hpower (m : Magnitude) : m.power (growth 1) = .one := Magnitude.powerFrom_zero .one m
  simp only [window, window?, secondsOf, hpower, hfirst, spanOf?, longest, hlongest]

/-- If the factor is one, each window is the first. -/
lemma window_of_backoff_one (h : p.backoff = .one) (n : Nat) : p.window n = p.window 1 := by
  simp only [window, window?, secondsOf, h, Magnitude.power_one]

/-- If the factor is infinite, each window but the first is the longest one. -/
lemma window_of_backoff_infinite (h : p.backoff = .infinite) {n : Nat} (hn : 2 ≤ n) :
    p.window n = p.longest := by
  have hgrowth : 1 ≤ growth n := by
    unfold growth
    omega
  have hseconds : (p.secondsOf n).isFinite = false := by
    rw [secondsOf, h, Magnitude.power_infinite hgrowth]
    exact Magnitude.isFinite_mul_infinite _
  have hwindow : p.window? n = some p.longest :=
    spanOf?_of_capped fun hfinite => absurd (hseconds.symm.trans hfinite) Bool.false_ne_true
  rw [window, hwindow]
  rfl

/-! ## Normalized settings -/

/-- Both repairs come to the same threshold. -/
lemma threshold_normalized (s : Settings) :
    (ofSettings s.normalized).threshold = (ofSettings s).threshold := by
  simp only [ofSettings, Settings.normalized]
  split
  · rename_i h
    rw [h]
    rfl
  · rfl

/-- Both repairs come to the same longest time. -/
lemma longestSecs_normalized (s : Settings) :
    (ofSettings s.normalized).longestSecs = (ofSettings s).longestSecs := by
  simp only [ofSettings, Settings.normalized]
  split
  · rename_i h
    rw [UInt64.lt_iff_toNat_lt] at h
    omega
  · rfl

/-- **The factor after both repairs**: one if it was infinite, and what the second repair alone
makes of it if it was not. -/
lemma backoff_normalized (s : Settings) :
    (ofSettings s.normalized).backoff =
      if s.suppressionBackoff = .infinity then .one else (ofSettings s).backoff :=
  s.suppressionBackoff.atLeastOne_repaired

/-- The factor of settings that hold an infinite one is infinite. -/
lemma backoff_of_infinity {s : Settings} (h : s.suppressionBackoff = .infinity) :
    (ofSettings s).backoff = .infinite := by
  simp only [ofSettings, h]
  rfl

/-- Without an infinite factor both repairs come to the same policy. -/
lemma ofSettings_normalized {s : Settings} (h : s.suppressionBackoff ≠ .infinity) :
    ofSettings s.normalized = ofSettings s := by
  have hbackoff := backoff_normalized s
  rw [if_neg h] at hbackoff
  exact CrashPolicy.ext (threshold_normalized s) rfl hbackoff (longestSecs_normalized s)

/-- **When the two repairs agree**: if the factor is not infinite, or the first suppression is the
longest one anyway. -/
theorem agrees_normalized_iff (s : Settings) :
    (ofSettings s).Agrees (ofSettings s.normalized) ↔
      (s.suppressionBackoff = .infinity → (ofSettings s).window 1 = (ofSettings s).longest) := by
  by_cases hinf : s.suppressionBackoff = .infinity
  · have hfirst : (ofSettings s.normalized).window 1 = (ofSettings s).window 1 :=
      window_one_congr rfl (longestSecs_normalized s)
    have hone : (ofSettings s.normalized).backoff = .one := by rw [backoff_normalized, if_pos hinf]
    have hnormalized (n : Nat) : (ofSettings s.normalized).window n = (ofSettings s).window 1 :=
      (window_of_backoff_one hone n).trans hfirst
    have hlater {n : Nat} (hn : 2 ≤ n) : (ofSettings s).window n = (ofSettings s).longest :=
      window_of_backoff_infinite (backoff_of_infinity hinf) hn
    constructor
    · intro hagrees _
      calc (ofSettings s).window 1 = (ofSettings s.normalized).window 2 := (hnormalized 2).symm
        _ = (ofSettings s).window 2 := (hagrees.window 2).symm
        _ = (ofSettings s).longest := hlater (Nat.le_refl 2)
    · intro h
      refine ⟨(threshold_normalized s).symm, fun n => ?_⟩
      rw [hnormalized]
      match n with
      | 0 => rfl
      | 1 => rfl
      | n + 2 => rw [hlater (by omega), h hinf]
  · rw [ofSettings_normalized hinf]
    exact iff_of_true ⟨rfl, fun _ => rfl⟩ fun h => absurd h hinf

end CrashPolicy

end LintPool
