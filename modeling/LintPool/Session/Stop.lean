import LintPool.Session.Basic

set_option autoImplicit false

/-!
# The steps of stopping a worker

The stopping waits until no request is under way, asks the worker to shut down, has its input
closed, and waits for the program to end; a program that does not is killed. No wait is longer than
its time allows.

## Main definitions

* `LintPool.Session.stepStopping` — the next step, if it can be taken.
-/

namespace LintPool.Session

/-- The session with the stopping in another phase. -/
def setStop (s : Session) (t : Stopping) (phase : StopPhase) : Session :=
  { s with stopping := some { t with phase } }

/-- The requests under way are over, or have had their time; if the worker lives, it is asked to
shut down. -/
def stepDraining (s : Session) (t : Stopping) (deadline now : Instant) : Option Session :=
  if s.inFlight = 0 || deadline.nanos ≤ now.nanos then
    if s.exited then some (s.setStop t .closing)
    else some { s with
      nextId := s.nextId + 1
      stopping := some { t with id := some s.nextId, phase := .registering } }
  else none

/-- The request to shut down is queued, if there is room; if the writer takes no more, it is struck
at once. -/
def stepShutdownSending (s : Session) (t : Stopping) (id : Nat) (now : Instant) : Option Session :=
  if s.writerOver then some (s.setStop t .withdrawing)
  else (s.enqueue? (.send (requestFrame id .shutdown .null))).map fun s =>
    s.setStop t (.waiting (deadlineAfter now shutdownTimeout))

/-- The order to close the worker's input is queued, if there is room. -/
def stepClosing (s : Session) (t : Stopping) : Option Session :=
  if s.writerOver then some (s.setStop t .locking)
  else (s.enqueue? .close).map fun s => s.setStop t .locking

/-- The stopping takes charge of the program, if nobody is in charge. -/
def stepLocking (s : Session) (t : Stopping) (now : Instant) : Option Session :=
  match s.keeper with
  | some _ => none
  | none => some { s.setStop t (.reaping (deadlineAfter now shutdownTimeout)) with
      keeper := some .stopping
      taken := true }

/-- The stopping lets go of the program. -/
def letGo (s : Session) (t : Stopping) : Session := { s.setStop t .over with keeper := none }

/-- The next step of the stopping, if it can be taken. -/
def stepStopping (s : Session) (now : Instant) : Option Session :=
  match s.stopping with
  | none => none
  | some t =>
    match t.phase, t.id with
    | .draining deadline, _ => s.stepDraining t deadline now
    | .registering, some id => some ((s.register id).setStop t .sending)
    | .sending, some id => s.stepShutdownSending t id now
    | .waiting deadline, some id =>
      if t.answered || !s.pending.contains id || deadline.nanos ≤ now.nanos then
        some (s.setStop t .withdrawing)
      else none
    | .withdrawing, some id => some ((s.strike id).setStop t .closing)
    | .registering, none => some (s.setStop t .closing)
    | .sending, none => some (s.setStop t .closing)
    | .waiting _, none => some (s.setStop t .closing)
    | .withdrawing, none => some (s.setStop t .closing)
    | .closing, _ => s.stepClosing t
    | .locking, _ => s.stepLocking t now
    | .reaping deadline, _ =>
      if s.ending.isSome then some (s.letGo t)
      else if deadline.nanos ≤ now.nanos then some (s.setStop t .killing)
      else none
    | .killing, _ => if s.ending.isSome then some (s.letGo t) else none
    | .over, _ => none

/-- Whether the stopping is over. -/
def isStopped (s : Session) : Bool :=
  match s.stopping with
  | some t => t.phase = .over
  | none => false

/-- Whether the program is to be killed. -/
def killsProgram (s : Session) : Bool :=
  match s.stopping with
  | some t => t.phase = .killing
  | none => false

end LintPool.Session
