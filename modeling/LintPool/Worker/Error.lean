import LintPool.Path
import LintPool.Time

set_option autoImplicit false

/-!
# Failures of a worker

## Main definitions

* `LintPool.WorkerError` — how a call to a worker fails, and its wording.
-/

namespace LintPool

/-- How a call to a worker fails. -/
inductive WorkerError where
  /-- The worker of a root died, could not be started, or did not answer. -/
  | crashed (root : Path) (message : String)
  /-- The root crashed too often and gets no worker for a while; the user is told about it once. -/
  | unavailable (root : Path) (retryAfter : Span) (notifyUser : Bool)
  /-- The worker lives on, and the linter reported an error. -/
  | failed (message : String)
  deriving Repr, DecidableEq

namespace WorkerError

/-- The wording of a failure. -/
def message : WorkerError → String
  | .crashed root message => s!"Linter worker for {root.text} crashed: {message}"
  | .unavailable root retryAfter _ =>
    s!"Linter worker for {root.text} is unavailable after repeated crashes; retrying in "
      ++ s!"{retryAfter.seconds}s"
  | .failed message => s!"Linter error: {message}"

/-- Whether the failure counts as a crash of its root. -/
def isCrash : WorkerError → Bool
  | .crashed .. => true
  | _ => false

/-- Whether the call was turned away. -/
def isUnavailable : WorkerError → Bool
  | .unavailable .. => true
  | _ => false

/-- Whether the user is to be told. -/
def notifyUser : WorkerError → Bool
  | .unavailable _ _ notify => notify
  | _ => false

end WorkerError

end LintPool
