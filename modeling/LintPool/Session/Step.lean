import LintPool.Session.Request
import LintPool.Session.Stop
import LintPool.Session.Streams

set_option autoImplicit false

/-!
# What may happen in a session

At each moment any of the tasks may take its next step, a caller may begin something or turn away,
and the worker program may read, write or end. Each of these is an event; what an event does that
cannot happen is nothing.

## Main definitions

* `LintPool.Session.Event` — what may happen next.
* `LintPool.Session.step` — what it does.
* `LintPool.Session.deadlines` — the times that the tasks wait for.
-/

namespace LintPool.Session

/-- What may happen next. -/
inductive Event where
  /-- A request begins. -/
  | begin (task : Task) (params : Json)
  /-- The request of a number takes its next step. -/
  | request (id : Nat)
  /-- Nobody waits for the request of a number any more. -/
  | abandoned (id : Nat)
  /-- A caller has the worker stopped. -/
  | dispose
  /-- The stopping takes its next step. -/
  | stopping
  /-- The watch takes its next step. -/
  | watchdog
  /-- The writer takes its next step. -/
  | writer
  /-- The reader takes its next step. -/
  | reader
  /-- The worker's input takes so many bytes. -/
  | accepted (n : Nat)
  /-- The worker's input breaks. -/
  | inputBroken
  /-- The worker's output brings some bytes. -/
  | output (bytes : Bytes)
  /-- The worker's output ends. -/
  | outputClosed
  /-- The worker program ends. -/
  | ended (e : Ending)
  deriving Repr

/-- What an event does. -/
def step (s : Session) (now : Instant) : Event → Session
  | .begin task params => (s.begin task params now).2
  | .request id => (s.stepRequest id now).getD s
  | .abandoned id => s.abandon id now
  | .dispose => s.dispose now
  | .stopping => (s.stepStopping now).getD s
  | .watchdog => (s.stepWatchdog now).getD s
  | .writer => s.stepWriter.getD s
  | .reader => (s.stepReader now).getD s
  | .accepted n => s.accept n
  | .inputBroken => s.breakInput
  | .output bytes => s.receive bytes
  | .outputClosed => s.closeOutput
  | .ended e => if s.ending.isSome then s else { s with ending := some e }

/-- The first of the requests that can take a step takes it. -/
def stepAnyRequest (s : Session) (now : Instant) : Option Session :=
  s.requests.findSome? fun r => s.stepRequest r.id now

/-- A step of whatever task can take one, requests first. -/
def stepAny (s : Session) (now : Instant) : Option Session :=
  (s.stepAnyRequest now).or <| (s.stepReader now).or <| s.stepWriter.or <|
    (s.stepStopping now).or (s.stepWatchdog now)

/-- The times that requests wait for. -/
def requestDeadlines (s : Session) : List Instant :=
  s.requests.filterMap fun r => match r.phase with
    | .waiting deadline => some deadline
    | _ => none

/-- The time that the stopping waits for. -/
def stopDeadline? (s : Session) : Option Instant :=
  match s.stopping with
  | some ⟨.draining deadline, _, _⟩ => some deadline
  | some ⟨.waiting deadline, _, _⟩ => some deadline
  | some ⟨.reaping deadline, _, _⟩ => some deadline
  | _ => none

/-- The time that the reader waits for. -/
def readerDeadline? (s : Session) : Option Instant :=
  match s.reader with
  | .awaiting _ deadline => some deadline
  | _ => none

/-- The time that the watch waits for. -/
def watchDeadline? (s : Session) : Option Instant :=
  match s.watchdog with
  | .sleeping wake => some wake
  | .over => none

/-- The times that the tasks wait for. -/
def deadlines (s : Session) : List Instant :=
  s.requestDeadlines ++ s.stopDeadline?.toList ++ s.readerDeadline?.toList
    ++ s.watchDeadline?.toList

end LintPool.Session
