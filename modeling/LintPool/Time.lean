import LintPool.Json.Basic

set_option autoImplicit false

/-!
# Spans of time

A span is a whole number of nanoseconds. The clock counts nanoseconds from an origin of its own.

## Main definitions

* `LintPool.Span` — a length of time.
* `LintPool.Instant` — a reading of the clock.
* `LintPool.Instant.add?` — a later reading, if the clock can hold it.
-/

namespace LintPool

/-- A length of time. -/
structure Span where
  /-- The number of nanoseconds. -/
  nanos : Nat
  deriving Repr, DecidableEq, Inhabited

namespace Span

/-- The nanoseconds in a second. -/
def second : Nat := 1000000000

/-- A number of whole seconds. -/
def ofSeconds (n : Nat) : Span := ⟨n * second⟩

/-- The whole seconds of a span. -/
def seconds (s : Span) : Nat := s.nanos / second

/-- The nanoseconds past the last whole second. -/
def subsecond (s : Span) : Nat := s.nanos % second

/-- The longer of two spans. -/
def max (a b : Span) : Span := if a.nanos ≤ b.nanos then b else a

end Span

/-- A reading of the clock. -/
structure Instant where
  /-- The nanoseconds since the origin. -/
  nanos : Nat
  deriving Repr, DecidableEq, Inhabited

namespace Instant

/-- The clock holds whole seconds below 2⁶³ and the nanoseconds past them. -/
def limit : Nat := Nat.pow 2 63 * Span.second

/-- The reading a span later, if the clock can hold it. -/
def add? (t : Instant) (s : Span) : Option Instant :=
  if t.nanos + s.nanos < limit then some ⟨t.nanos + s.nanos⟩ else none

/-- The span from an earlier reading to a later one, empty if there is none. -/
def since (later earlier : Instant) : Span :=
  ⟨later.nanos - earlier.nanos⟩

end Instant

end LintPool
