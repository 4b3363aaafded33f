import LintPool.Config.Settings
import LintPool.Time

set_option autoImplicit false

/-!
# How long a crashing root is left alone

The first suppression lasts for a set time, and each further one without a success in between is
longer by a factor, up to a set longest time. The length is computed in floating point numbers: the
time is rounded to one, multiplied by a power of the factor, and rounded to a nanosecond.

## Main definitions

* `LintPool.Span.ofMagnitude?` — the span of a floating point number of seconds, if it has one.
* `LintPool.CrashPolicy` — the threshold, the times and the factor.
* `LintPool.CrashPolicy.window` — the length of the `n`-th suppression.
-/

namespace LintPool

/-- The span of a number of seconds, rounded to a nanosecond. What is not finite has none, and
neither have 2⁶⁴ seconds or more, which a span cannot hold. -/
def Span.ofMagnitude? : Magnitude → Option Span
  | .finite units =>
    if units < Nat.pow 2 64 * Magnitude.oneUnits then
      some ⟨roundQuotient (units * second) Magnitude.oneUnits⟩
    else none
  | _ => none

/-- The threshold, the times and the factor. -/
structure CrashPolicy where
  /-- The number of crashes in a row after which a root is suppressed. -/
  threshold : Nat
  /-- The seconds that the first suppression lasts. -/
  firstSecs : Nat
  /-- The factor by which the next one is longer. -/
  backoff : Magnitude
  /-- The seconds that the longest one lasts. -/
  longestSecs : Nat
  deriving Repr, DecidableEq

namespace CrashPolicy

/-- The policy of some settings, whether or not their values make sense together. -/
def ofSettings (s : Settings) : CrashPolicy where
  threshold := max s.crashThreshold.toNat 1
  firstSecs := s.suppressionSecs.toNat
  backoff := s.suppressionBackoff.atLeastOne
  longestSecs := max s.maxSuppressionSecs.toNat s.suppressionSecs.toNat

/-- The longest suppression. -/
def longest (p : CrashPolicy) : Span := .ofSeconds p.longestSecs

/-- The power of the factor for the `n`-th suppression: one less than `n`, and at most 64. -/
def growth (n : Nat) : Nat := min (n - 1) 64

/-- The seconds of the `n`-th suppression as a floating point number. -/
def secondsOf (p : CrashPolicy) (n : Nat) : Magnitude :=
  (Magnitude.ofNat p.firstSecs).mul (p.backoff.power (growth n))

/-- The span of a number of seconds: the longest suppression if they are not finite, or not below
that. -/
def spanOf? (p : CrashPolicy) (seconds : Magnitude) : Option Span :=
  if !seconds.isFinite || (Magnitude.ofNat p.longestSecs).le seconds then some p.longest
  else Span.ofMagnitude? seconds

/-- The length of the `n`-th suppression in a row, counted from one, unless its seconds have no
span. -/
def window? (p : CrashPolicy) (n : Nat) : Option Span :=
  p.spanOf? (p.secondsOf n)

/-- The length of the `n`-th suppression in a row, counted from one. -/
def window (p : CrashPolicy) (n : Nat) : Span :=
  (p.window? n).getD p.longest

end CrashPolicy

end LintPool
