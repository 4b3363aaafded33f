import LintPool.Binary64.Basic
import LintPool.Path

set_option autoImplicit false

/-!
# Settings

## Main definitions

* `LintPool.Settings` — how workers are started and when a crashing root is left alone.
* `LintPool.Settings.normalized` — settings whose values make sense together.
-/

namespace LintPool

/-- How workers are started and when a crashing root is left alone. -/
structure Settings where
  /-- The number of crashes in a row after which a root is suppressed. -/
  crashThreshold : UInt32
  /-- The length of the first suppression. -/
  suppressionSecs : UInt64
  /-- The factor by which the next suppression of the same root is longer. -/
  suppressionBackoff : Binary64
  /-- The length that no suppression exceeds. -/
  maxSuppressionSecs : UInt64
  /-- The time without a request after which a worker stops; zero if it never does. -/
  workerIdleTimeoutSecs : UInt64
  /-- The time that a worker has to answer. -/
  requestTimeoutSecs : UInt64
  /-- The program that runs the worker script. -/
  workerCommand : String
  /-- The worker script; without it no worker can be started. -/
  workerScript : Option Path
  /-- The name of the file that marks a package root. -/
  packageMarker : String
  deriving Repr, DecidableEq

namespace Settings

/-- The settings of a user who has set nothing. -/
def standard : Settings where
  crashThreshold := 2
  suppressionSecs := 30
  suppressionBackoff := .one
  maxSuppressionSecs := 300
  workerIdleTimeoutSecs := 300
  requestTimeoutSecs := 60
  workerCommand := "node"
  workerScript := none
  packageMarker := "package.json"

instance : Inhabited Settings := ⟨standard⟩

/-- Settings whose values make sense together: a threshold of at least one, a factor that is a
number and at least one, and a longest suppression no shorter than the first. -/
def normalized (s : Settings) : Settings :=
  { s with
    crashThreshold := if s.crashThreshold = 0 then 1 else s.crashThreshold
    suppressionBackoff :=
      if !s.suppressionBackoff.isFinite || s.suppressionBackoff.lessThanOne then .one
      else s.suppressionBackoff
    maxSuppressionSecs :=
      if s.maxSuppressionSecs < s.suppressionSecs then s.suppressionSecs
      else s.maxSuppressionSecs }

end Settings

end LintPool
