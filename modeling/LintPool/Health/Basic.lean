import LintPool.Health.Policy
import LintPool.Worker.Error

set_option autoImplicit false

/-!
# The health of a worker root

Health belongs to the root and not to the worker: a worker that crashed is replaced, and the crash
still counts. When as many crashes have come in a row as the policy allows, the next call is turned
away and starts a suppression; calls during the suppression are turned away quietly; the first call
after it is let through, and one more crash then starts the next, longer suppression.

## Main definitions

* `LintPool.Health` — the state of a root.
* `LintPool.Health.consider` — whether a call may go to the worker.
* `LintPool.Health.recordCrash`, `LintPool.Health.recordSuccess` — what a call came to.
* `LintPool.HealthReport` — the state as others see it.
-/

namespace LintPool

/-- The largest count that is kept; counting stops there. -/
def maxCount : Nat := Nat.pow 2 32 - 1

/-- The next count. -/
def countUp (n : Nat) : Nat := min (n + 1) maxCount

/-- Where a root stands. -/
inductive Standing where
  /-- No crash since the last success. -/
  | healthy
  /-- That many crashes since the last success. -/
  | degraded (crashes : Nat)
  /-- Calls are turned away until that time. -/
  | suppressed (expiry : Instant)
  deriving Repr, DecidableEq

/-- The state of a root. -/
structure Health where
  /-- Where it stands. -/
  standing : Standing
  /-- The number of suppressions since the last success. -/
  suppressions : Nat
  deriving Repr, DecidableEq

/-- The state as others see it. -/
inductive HealthReport where
  | healthy
  | degraded (crashes : Nat)
  | suppressed (remaining : Span)
  deriving Repr, DecidableEq

/-- The span after which a suppression ends whose own end the clock cannot hold: a hundred years. -/
def farFuture : Span := .ofSeconds (100 * 365 * 24 * 60 * 60)

/-- The end of a suppression that starts now. -/
def expiryOf (now : Instant) (window : Span) : Instant :=
  match now.add? window with
  | some t => t
  | none => (now.add? farFuture).getD now

namespace Health

/-- The state of a root that never crashed. -/
def fresh : Health := ⟨.healthy, 0⟩

instance : Inhabited Health := ⟨fresh⟩

/-- The standing after some crashes. -/
def afterCrashes (crashes : Nat) : Standing :=
  if crashes = 0 then .healthy else .degraded crashes

/-- Decides whether a call may go to the worker, and what becomes of the state. -/
def consider (policy : CrashPolicy) (root : Path) (now : Instant) (h : Health) :
    Except WorkerError Unit × Health :=
  match h.standing with
  | .healthy => (.ok (), h)
  | .degraded crashes =>
    if crashes < policy.threshold then (.ok (), h)
    else
      let n := countUp h.suppressions
      let window := policy.window n
      (.error (.unavailable root window true), ⟨.suppressed (expiryOf now window), n⟩)
  | .suppressed expiry =>
    if now.nanos < expiry.nanos then (.error (.unavailable root (expiry.since now) false), h)
    else (.ok (), { h with standing := afterCrashes (policy.threshold - 1) })

/-- Counts a crash; one that comes late, during a suppression, does not prolong it. -/
def recordCrash (h : Health) : Health :=
  match h.standing with
  | .healthy => { h with standing := .degraded 1 }
  | .degraded crashes => { h with standing := .degraded (countUp crashes) }
  | .suppressed _ => h

/-- A success wipes the slate clean. -/
def recordSuccess (_ : Health) : Health := fresh

/-- Whether no crash stands against the root. -/
def isHealthy (h : Health) : Bool :=
  h.standing = .healthy

/-- The state as others see it now. -/
def report (h : Health) (now : Instant) : HealthReport :=
  match h.standing with
  | .healthy => .healthy
  | .degraded crashes => .degraded crashes
  | .suppressed expiry => .suppressed (expiry.since now)

end Health

end LintPool
