import LintPool.Session.Basic

set_option autoImplicit false

/-!
# The steps of a request

## Main definitions

* `LintPool.Session.begin` — a request begins, or is refused.
* `LintPool.Session.stepRequest` — its next step, if it can take one.
* `LintPool.Session.abandon` — nobody waits for it any more.
* `LintPool.Session.fetch` — its result is fetched.
-/

namespace LintPool.Session

/-- A request begins: it gets a number, unless the session takes no more requests. -/
def begin (s : Session) (task : Task) (params : Json) (now : Instant) :
    Except WorkerError Nat × Session :=
  if s.isDown now then (.error (s.crashed "worker is no longer running"), s)
  else
    (.ok s.nextId,
      { s with
        nextId := s.nextId + 1
        requests := s.requests ++ [⟨s.nextId, task, params, none, .registering⟩]
        lastActivity := now })

/-- A request is entered among the pending ones. -/
def stepRegistering (s : Session) (r : Request) : Session :=
  (s.register r.id).setPhase r.id .checking

/-- A request looks whether the session is over. -/
def stepChecking (s : Session) (r : Request) : Session :=
  if s.exited then s.setPhase r.id (.withdrawing .sessionOver) else s.setPhase r.id .sending

/-- A request is queued, if there is room; if the writer takes no more, it withdraws. -/
def stepSending (s : Session) (r : Request) (now : Instant) : Option Session :=
  if s.writerOver then some (s.setPhase r.id (.withdrawing .inputClosed))
  else (s.enqueue? (.send (requestFrame r.id r.task.method r.params))).map fun s =>
    s.setPhase r.id (.waiting (deadlineAfter now s.requestTimeout))

/-- A waiting request takes its reply, notes that there will be none, or gives up at its
deadline. -/
def stepWaiting (s : Session) (r : Request) (deadline now : Instant) : Option Session :=
  match r.reply with
  | some reply => some (s.finish r.id (r.task.settle reply) now)
  | none =>
    if !s.pending.contains r.id then some (s.finish r.id (.error (s.crashed s.exitMessage)) now)
    else if deadline.nanos ≤ now.nanos then some (s.setPhase r.id (.withdrawing .timedOut))
    else none

/-- The wording for a request that was not answered in time. -/
def timeoutMessage (s : Session) (task : Task) : String :=
  s!"no response to {task.method.name} within {s.requestTimeout.seconds}s"

/-- A request withdraws; one that was not answered in time has the worker stopped. -/
def stepWithdrawing (s : Session) (r : Request) (now : Instant) : Withdrawal → Session
  | .sessionOver => (s.strike r.id).finish r.id (.error (s.crashed s.exitMessage)) now
  | .inputClosed => (s.strike r.id).finish r.id (.error (s.crashed "worker stdin closed")) now
  | .timedOut =>
    ((s.strike r.id).dispose now).finish r.id (.error (s.crashed (s.timeoutMessage r.task))) now

/-- The next step of the request of a number, if it can take one. -/
def stepRequest (s : Session) (id : Nat) (now : Instant) : Option Session :=
  match s.request? id with
  | none => none
  | some r =>
    match r.phase with
    | .registering => some (s.stepRegistering r)
    | .checking => some (s.stepChecking r)
    | .sending => s.stepSending r now
    | .waiting deadline => s.stepWaiting r deadline now
    | .withdrawing cause => some (s.stepWithdrawing r now cause)
    | .finished _ => none

/-- Nobody waits for a request any more. -/
def abandon (s : Session) (id : Nat) (now : Instant) : Session :=
  match s.request? id with
  | none => s
  | some r =>
    let s := { s with requests := s.requests.filter (·.id ≠ id) }
    if r.isFinished then s else { s with lastActivity := now }

/-- The result of a request that is over. -/
def result? (s : Session) (id : Nat) : Option CallResult :=
  match s.request? id with
  | some ⟨_, _, _, _, .finished result⟩ => some result
  | _ => none

/-- The session without a request that is over. -/
def fetch (s : Session) (id : Nat) : Session :=
  { s with requests := s.requests.filter fun r => !(r.id = id && r.isFinished) }

end LintPool.Session
