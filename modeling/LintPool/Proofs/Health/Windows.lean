import LintPool.Health.Policy
import LintPool.Proofs.Binary64.Powers

set_option autoImplicit false

/-!
# The lengths of suppressions

The length of a suppression is computed in floating point numbers from settings that may hold
anything: seconds that the format rounds, a factor below one, infinite, or no number at all. It is a
span nevertheless, never longer than the longest suppression, and never shorter than the ones
before.

## Main results

* `LintPool.CrashPolicy.exists_spanOf?` — every number of seconds has a span, which is not longer
  than the longest suppression.
* `LintPool.CrashPolicy.spanOf?_mono` — more seconds have a longer span.
* `LintPool.CrashPolicy.window_capped` — the lengths are computed, are not longer than the longest
  one, and stay the same from the 65th on.
* `LintPool.CrashPolicy.window_never_shrinks` — no suppression is shorter than the ones before.
-/

namespace LintPool

/-- A finite number is below another one, or not below it. -/
lemma Magnitude.le_of_not_lt {u v : Nat} (h : (Magnitude.finite u).lt (.finite v) = false) :
    (Magnitude.finite v).le (.finite u) :=
  finite_le_iff.2 (.inl ⟨u, rfl, Nat.not_lt.1 (of_decide_eq_false h)⟩)

/-- The larger of a number and one is not below one. -/
lemma Binary64.one_le_atLeastOne (x : Binary64) : Magnitude.one.le x.atLeastOne := by
  obtain ⟨negative, magnitude⟩ := x
  cases magnitude with
  | finite u =>
    cases hlow : negative || (Magnitude.finite u).lt .one with
    | true =>
      simp only [atLeastOne, hlow, if_true]
      exact Magnitude.one_le_one
    | false =>
      simp only [atLeastOne, hlow, Bool.false_eq_true, if_false]
      exact Magnitude.le_of_not_lt (Bool.or_eq_false_iff.1 hlow).2
  | infinite =>
    cases negative with
    | true => exact Magnitude.one_le_one
    | false => rfl
  | nan => exact Magnitude.one_le_one

namespace CrashPolicy

variable {p : CrashPolicy}

/-! ## Spans of seconds -/

/-- What is below the rounded longest suppression is not above the longest suppression itself,
though that may be rounded up. -/
lemma units_le {u : Nat} (hu : (Magnitude.finite u).Rounded)
    (h : ¬ (Magnitude.ofNat p.longestSecs).le (.finite u)) :
    u ≤ p.longestSecs * Magnitude.oneUnits := by
  by_contra hlt
  exact h (Magnitude.ofNat_le hu (Nat.le_of_not_le hlt))

/-- The nanoseconds of a number of seconds that is not above the longest suppression. -/
lemma nanos_le {u : Nat} (h : u ≤ p.longestSecs * Magnitude.oneUnits) :
    roundQuotient (u * Span.second) Magnitude.oneUnits ≤ p.longest.nanos := by
  have hle : u * Span.second ≤ p.longest.nanos * Magnitude.oneUnits :=
    calc u * Span.second ≤ p.longestSecs * Magnitude.oneUnits * Span.second :=
          Nat.mul_le_mul_right _ h
      _ = p.longest.nanos * Magnitude.oneUnits := Nat.mul_right_comm _ _ _
  calc roundQuotient (u * Span.second) Magnitude.oneUnits
      ≤ roundQuotient (p.longest.nanos * Magnitude.oneUnits) Magnitude.oneUnits :=
        roundQuotient_mono hle _
    _ = p.longest.nanos := roundQuotient_mul Magnitude.oneUnits_pos _

/-- The span of seconds that are not finite, or not below the longest suppression, is that one. -/
lemma spanOf?_of_capped {seconds : Magnitude}
    (h : seconds.isFinite → (Magnitude.ofNat p.longestSecs).le seconds) :
    p.spanOf? seconds = some p.longest := by
  cases seconds with
  | finite u => rw [spanOf?, if_pos (by rw [h rfl, Bool.or_true])]
  | infinite => rfl
  | nan => rfl

/-- The span of a finite number of seconds below the longest suppression. -/
lemma spanOf?_finite {u : Nat} (hlongest : p.longestSecs < 2 ^ 64)
    (hu : (Magnitude.finite u).Rounded) (h : ¬ (Magnitude.ofNat p.longestSecs).le (.finite u)) :
    ∃ span, p.spanOf? (.finite u) = some span ∧
      span.nanos = roundQuotient (u * Span.second) Magnitude.oneUnits := by
  have hheld : u < Nat.pow 2 64 * Magnitude.oneUnits :=
    lt_of_le_of_lt (units_le hu h) (Nat.mul_lt_mul_of_pos_right hlongest Magnitude.oneUnits_pos)
  refine ⟨⟨roundQuotient (u * Span.second) Magnitude.oneUnits⟩, ?_, by dsimp only⟩
  rw [spanOf?, if_neg (by simpa [Magnitude.isFinite] using h), Span.ofMagnitude?, if_pos hheld]

/-- Seconds that are not capped are a finite number below the longest suppression. -/
lemma capped_or (p : CrashPolicy) (seconds : Magnitude) :
    (seconds.isFinite → (Magnitude.ofNat p.longestSecs).le seconds) ∨
      ∃ u, seconds = .finite u ∧ ¬ (Magnitude.ofNat p.longestSecs).le (.finite u) := by
  cases seconds with
  | finite u =>
    cases hle : (Magnitude.ofNat p.longestSecs).le (.finite u) with
    | true => exact .inl fun _ => rfl
    | false => exact .inr ⟨u, rfl, by simp [hle]⟩
  | infinite => exact .inl (by rintro ⟨⟩)
  | nan => exact .inl (by rintro ⟨⟩)

/-- **Every number of seconds has a span**, which is not longer than the longest suppression. -/
theorem exists_spanOf? (hlongest : p.longestSecs < 2 ^ 64) {seconds : Magnitude}
    (hround : seconds.Rounded) :
    ∃ span, p.spanOf? seconds = some span ∧ span.nanos ≤ p.longest.nanos := by
  rcases capped_or p seconds with hcap | ⟨u, rfl, hlow⟩
  · exact ⟨p.longest, spanOf?_of_capped hcap, Nat.le_refl _⟩
  · obtain ⟨span, hspan, hnanos⟩ := spanOf?_finite hlongest hround hlow
    refine ⟨span, hspan, ?_⟩
    rw [hnanos]
    exact nanos_le (units_le hround hlow)

/-- **More seconds have a longer span**; seconds that are not finite count as most of all. -/
theorem spanOf?_mono (hlongest : p.longestSecs < 2 ^ 64) {fewer more : Magnitude}
    (hfewer : fewer.Rounded) (hmore : more.Rounded) (h : more.isFinite → fewer.le more)
    {short long : Span} (hshort : p.spanOf? fewer = some short)
    (hlong : p.spanOf? more = some long) : short.nanos ≤ long.nanos := by
  rcases capped_or p more with hcap | ⟨v, rfl, hlow⟩
  · -- the span of `more` is the longest one
    obtain ⟨span, hspan, hle⟩ := exists_spanOf? hlongest hfewer
    rw [spanOf?_of_capped hcap] at hlong
    rw [hspan] at hshort
    rwa [← Option.some.inj hlong, ← Option.some.inj hshort]
  · obtain ⟨u, rfl, huv⟩ := Magnitude.le_finite_iff.1 (h rfl)
    have hlow' : ¬ (Magnitude.ofNat p.longestSecs).le (.finite u) :=
      fun hle => hlow (Magnitude.le_trans hle (h rfl))
    obtain ⟨_, hmore', hnanos⟩ := spanOf?_finite hlongest hmore hlow
    obtain ⟨_, hfewer', hnanos'⟩ := spanOf?_finite hlongest hfewer hlow'
    rw [hmore'] at hlong
    rw [hfewer'] at hshort
    rw [← Option.some.inj hlong, ← Option.some.inj hshort, hnanos, hnanos']
    exact roundQuotient_mono (Nat.mul_le_mul_right _ huv) _

/-! ## The policies of settings -/

/-- The longest suppression of some settings is a number of seconds of 64 bits. -/
lemma longestSecs_lt (s : Settings) : (ofSettings s).longestSecs < 2 ^ 64 :=
  Nat.max_lt.2 ⟨s.maxSuppressionSecs.toNat_lt, s.suppressionSecs.toNat_lt⟩

/-- The length of a suppression under some settings is computed, and at most the longest one. -/
lemma window?_eq_some (s : Settings) (n : Nat) :
    (ofSettings s).window? n = some ((ofSettings s).window n) ∧
      ((ofSettings s).window n).nanos ≤ (ofSettings s).longest.nanos := by
  obtain ⟨span, hspan, hle⟩ :=
    exists_spanOf? (longestSecs_lt s) (Magnitude.rounded_mul (.ofNat (ofSettings s).firstSecs)
      ((ofSettings s).backoff.power (growth n)))
  have hwindow : (ofSettings s).window? n = some span := hspan
  rw [window, hwindow]
  exact ⟨rfl, hle⟩

/-- **No suppression is longer than the longest one.** Whatever the settings, the seconds of each
suppression have a span, which is at most the larger of the two times; from the 65th on it stays the
same. -/
theorem window_capped (s : Settings) (n : Nat) :
    (ofSettings s).window? n = some ((ofSettings s).window n) ∧
      ((ofSettings s).window n).nanos ≤
        max s.maxSuppressionSecs.toNat s.suppressionSecs.toNat * Span.second ∧
      (65 ≤ n → (ofSettings s).window n = (ofSettings s).window 65) := by
  obtain ⟨hsome, hle⟩ := window?_eq_some s n
  refine ⟨hsome, hle, fun hn => ?_⟩
  have hgrowth : growth n = growth 65 := by
    unfold growth
    omega
  rw [window, window?, secondsOf, hgrowth]
  rfl

/-- The factor is the number next to one, and neither of the times is a number of the format. -/
def creeping : Settings :=
  { Settings.standard with
    suppressionSecs := 9007199254740993
    suppressionBackoff := ⟨false, .finite (Magnitude.oneUnits + Nat.pow 2 1022)⟩
    maxSuppressionSecs := 9007199254741093 }

/-- The thousandth suppression of the creeping settings lasts as long as the 65th, which is just the
longest time, although that is above the number it is rounded to. -/
theorem window_capped_creeping :
    ((ofSettings creeping).window? 1000 = some ((ofSettings creeping).window 1000) ∧
      ((ofSettings creeping).window 1000).nanos ≤
        max creeping.maxSuppressionSecs.toNat creeping.suppressionSecs.toNat * Span.second ∧
      (ofSettings creeping).window 1000 = (ofSettings creeping).window 65) ∧
    ((ofSettings creeping).window 65).nanos = 9007199254741093 * Span.second := by
  obtain ⟨hsome, hle, hsame⟩ := window_capped creeping 1000
  exact ⟨⟨hsome, hle, hsame (by decide)⟩, by decide +kernel⟩

/-- **No suppression is shorter than the ones before**, whatever the settings. -/
theorem window_never_shrinks (s : Settings) {m n : Nat} (h : m ≤ n) :
    ((ofSettings s).window m).nanos ≤ ((ofSettings s).window n).nanos := by
  have hgrowth : growth m ≤ growth n := by
    unfold growth
    omega
  have hone : Magnitude.one.le (ofSettings s).backoff := s.suppressionBackoff.one_le_atLeastOne
  have hpower := Magnitude.power_mono hone hgrowth
  have hbelow : Magnitude.one.le ((ofSettings s).backoff.power (growth m)) :=
    Magnitude.one_le_power hone (growth m)
  refine spanOf?_mono (longestSecs_lt s) (Magnitude.rounded_mul _ _) (Magnitude.rounded_mul _ _)
    (Magnitude.mul_le_mul_left _ hbelow hpower) (window?_eq_some s m).1 (window?_eq_some s n).1

/-- The creeping settings make every suppression longer by what a number of the format can tell,
until the longest time is reached. -/
theorem window_never_shrinks_creeping :
    ((ofSettings creeping).window 2).nanos ≤ ((ofSettings creeping).window 50).nanos ∧
      ((ofSettings creeping).window 50).nanos < ((ofSettings creeping).window 51).nanos :=
  ⟨window_never_shrinks creeping (by decide), by decide +kernel⟩

end CrashPolicy

end LintPool
