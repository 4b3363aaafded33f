import LintPool.Frame.Decoder
import LintPool.Frame.Writer
import LintPool.Program.Routine
import LintPool.Worker.Finding

set_option autoImplicit false

/-!
# The session with a worker

A session is the conversation with one worker program. Requests, the reading of replies, the
writing of frames, the watch over idleness and the stopping of the worker are tasks that run side
by side; each goes on step by step, and what stands in this state is all that they share.

A request is given a number, is entered among the pending ones, looks whether the session is over,
is queued for writing and then waits for its reply. The reader hands every reply to the pending
request of its number. When the worker's output ends, the reader waits a while for the worker to
end, notes why the session is over, says that it is, and strikes all pending requests, which fails
them.

## Main definitions

* `LintPool.Request`, `LintPool.Stopping`, `LintPool.Writer`, `LintPool.Reader`,
  `LintPool.Watchdog` — how far each task is.
* `LintPool.Session` — the state that they share.
* `LintPool.Session.isDown` — whether the session takes no more requests.
-/

namespace LintPool

/-! ## Tasks -/

/-- Why a request withdraws from the pending ones. -/
inductive Withdrawal where
  /-- The session was over before the request was queued. -/
  | sessionOver
  /-- The writer takes no more. -/
  | inputClosed
  /-- No reply came in time. -/
  | timedOut
  deriving Repr, DecidableEq

/-- How far a request is. -/
inductive RequestPhase where
  /-- About to be entered among the pending ones. -/
  | registering
  /-- About to look whether the session is over. -/
  | checking
  /-- About to be queued for writing. -/
  | sending
  /-- Waiting for its reply. -/
  | waiting (deadline : Instant)
  /-- About to be struck from the pending ones. -/
  | withdrawing (cause : Withdrawal)
  /-- Over. -/
  | finished (result : CallResult)
  deriving Repr

/-- A request. -/
structure Request where
  /-- Its number. -/
  id : Nat
  /-- What it asks for. -/
  task : Task
  /-- With which parameters. -/
  params : Json
  /-- The reply that was handed to it. -/
  reply : Option Reply
  /-- How far it is. -/
  phase : RequestPhase
  deriving Repr

/-- Whether a request is over. -/
def Request.isFinished (r : Request) : Bool :=
  match r.phase with
  | .finished _ => true
  | _ => false

/-- How far the stopping of a worker is. -/
inductive StopPhase where
  /-- Waiting until no request is under way. -/
  | draining (deadline : Instant)
  /-- About to enter the request to shut down among the pending ones. -/
  | registering
  /-- About to queue it. -/
  | sending
  /-- Waiting for its reply. -/
  | waiting (deadline : Instant)
  /-- About to strike it. -/
  | withdrawing
  /-- About to have the worker's input closed. -/
  | closing
  /-- About to take charge of the worker program. -/
  | locking
  /-- Waiting for the program to end. -/
  | reaping (deadline : Instant)
  /-- Waiting for the program to end after it was killed. -/
  | killing
  /-- Over. -/
  | over
  deriving Repr, DecidableEq

/-- The stopping of a worker. -/
structure Stopping where
  /-- How far it is. -/
  phase : StopPhase
  /-- The number of the request to shut down. -/
  id : Option Nat
  /-- Whether that has been answered. -/
  answered : Bool
  deriving Repr, DecidableEq

/-- What the writer is told. -/
inductive WriterOrder where
  /-- To write a frame. -/
  | send (frame : Json)
  /-- To close the worker's input. -/
  | close
  deriving Repr

/-- How far the writer is. -/
inductive Writer where
  /-- Waiting for an order. -/
  | idle
  /-- Writing what is left of a frame. -/
  | writing (rest : Bytes)
  /-- Over: the worker's input is closed. -/
  | over
  deriving Repr

/-- How far the reader is. -/
inductive Reader where
  /-- Reading: the decoder, the frames not yet looked at, and why reading has ended, if it has. -/
  | reading (decoder : FrameDecoder) (inbox : List Json) (reason : Option String)
  /-- About to take charge of the worker program. -/
  | locking (reason : String)
  /-- Waiting for the program to end. -/
  | awaiting (reason : String) (deadline : Instant)
  /-- About to note why the session is over. -/
  | noting (reason : String)
  /-- About to say that the session is over. -/
  | exiting
  /-- About to strike all pending requests. -/
  | clearing
  /-- Over. -/
  | over
  deriving Repr

/-- How far the watch over idleness is. -/
inductive Watchdog where
  /-- Waiting until it is time to look. -/
  | sleeping (wake : Instant)
  /-- Over, or never begun. -/
  | over
  deriving Repr, DecidableEq

/-- Who is in charge of the worker program. -/
inductive Keeper where
  | reader
  | stopping
  deriving Repr, DecidableEq

/-! ## The session -/

/-- The state of a session. -/
structure Session where
  /-- The root that the worker works for. -/
  root : Path
  /-- The time that a request has. -/
  requestTimeout : Span
  /-- The time without a request after which the session ends; zero if it never does. -/
  idleTimeout : Span
  /-- The numbers of the requests that a reply is handed to. -/
  pending : List Nat
  /-- The number of the next request. -/
  nextId : Nat
  /-- The requests, those included that are over until their result is fetched. -/
  requests : List Request
  /-- When a request last began or ended. -/
  lastActivity : Instant
  /-- Whether the stopping of the worker has been ordered. -/
  disposed : Bool
  /-- Whether the worker's output has ended. -/
  exited : Bool
  /-- Why the session is over. -/
  exitReason : Option String
  /-- The orders for the writer. -/
  queue : List WriterOrder
  /-- How far the writer is. -/
  writer : Writer
  /-- How far the reader is. -/
  reader : Reader
  /-- How far the stopping is, if it has begun. -/
  stopping : Option Stopping
  /-- How far the watch is. -/
  watchdog : Watchdog
  /-- Who is in charge of the worker program, if somebody is. -/
  keeper : Option Keeper
  /-- Whether the stopping has taken the worker program over for good. -/
  taken : Bool
  /-- How the worker program ended, if it has. -/
  ending : Option Ending
  deriving Repr

/-- The time that a worker has to end. -/
def shutdownTimeout : Span := .ofSeconds 2

/-- The time for which the stopping waits for requests under way. -/
def drainTimeout : Span := .ofSeconds 10

/-- The most orders that are queued for the writer. -/
def queueCapacity : Nat := 64

/-- The watch looks four times in the time without requests, but not more often than once a
second. -/
def watchInterval (idleTimeout : Span) : Span :=
  Span.max ⟨idleTimeout.nanos / 4⟩ (.ofSeconds 1)

/-- A reading of the clock that is so far off that nobody waits for it: thirty years. -/
def farOff (now : Instant) : Instant := ⟨now.nanos + (Span.ofSeconds (30 * 365 * 86400)).nanos⟩

/-- The reading a span from now, or one far off if the clock cannot hold that. -/
def deadlineAfter (now : Instant) (s : Span) : Instant := (now.add? s).getD (farOff now)

namespace Session

/-- The session with a worker that has just been started. -/
def start (root : Path) (requestTimeout idleTimeout : Span) (now : Instant) : Session where
  root
  requestTimeout
  idleTimeout
  pending := []
  nextId := 1
  requests := []
  lastActivity := now
  disposed := false
  exited := false
  exitReason := none
  queue := []
  writer := .idle
  reader := .reading .idle [] none
  stopping := none
  watchdog :=
    if idleTimeout.nanos = 0 then .over
    else .sleeping (deadlineAfter now (watchInterval idleTimeout))
  keeper := none
  taken := false
  ending := none

/-- The number of requests under way. -/
def inFlight (s : Session) : Nat := (s.requests.filter fun r => !r.isFinished).length

/-- Whether the session has been without a request for too long. -/
def isIdle (s : Session) (now : Instant) : Bool :=
  s.idleTimeout.nanos ≠ 0 && s.inFlight = 0
    && s.idleTimeout.nanos ≤ (now.since s.lastActivity).nanos

/-- Whether the session takes no more requests. -/
def isDown (s : Session) (now : Instant) : Bool := s.disposed || s.exited || s.isIdle now

/-- The failure of a request when the session is over or the worker does not answer. -/
def crashed (s : Session) (message : String) : WorkerError := .crashed s.root message

/-- Why the session is over, in words. -/
def exitMessage (s : Session) : String := s.exitReason.getD "worker exited during request"

/-- The request of a number. -/
def request? (s : Session) (id : Nat) : Option Request := s.requests.find? (·.id = id)

/-- The session with the request of a number changed. -/
def mapRequest (s : Session) (id : Nat) (f : Request → Request) : Session :=
  { s with requests := s.requests.map fun r => if r.id = id then f r else r }

/-- The session with the request of a number in another phase. -/
def setPhase (s : Session) (id : Nat) (phase : RequestPhase) : Session :=
  s.mapRequest id fun r => { r with phase }

/-- The session with a number among the pending ones. -/
def register (s : Session) (id : Nat) : Session := { s with pending := s.pending ++ [id] }

/-- The session without a number among the pending ones. -/
def strike (s : Session) (id : Nat) : Session :=
  { s with pending := s.pending.filter (· ≠ id) }

/-- Whether the writer takes no more. -/
def writerOver (s : Session) : Bool :=
  match s.writer with
  | .over => true
  | _ => false

/-- The session with an order queued, if there is room for it. -/
def enqueue? (s : Session) (o : WriterOrder) : Option Session :=
  if s.queue.length < queueCapacity then some { s with queue := s.queue ++ [o] } else none

/-- The stopping of the worker begins, unless it has been ordered before. -/
def dispose (s : Session) (now : Instant) : Session :=
  if s.disposed then s
  else
    { s with
      disposed := true
      stopping := some ⟨.draining (deadlineAfter now drainTimeout), none, false⟩ }

/-- A request ends with a result. -/
def finish (s : Session) (id : Nat) (result : CallResult) (now : Instant) : Session :=
  { s.setPhase id (.finished result) with lastActivity := now }

end Session

end LintPool
