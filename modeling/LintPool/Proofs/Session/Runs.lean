import Mathlib.Data.List.Nodup
import Mathlib.Tactic.Common
import LintPool.Session.Step

set_option autoImplicit false

/-!
# Runs of a session

A run is a list of moments: the time, and what comes about. What the requests have to do with one
another stands in a part of the state, the ledger: the requests, the numbers that a reply is handed
to, how far the end of the session is, and the stopping. Everything about runs rests on what one
moment can do to the ledger, which is said once, as a relation with a case for each way in which it
moves on.

## Main definitions

* `LintPool.Session.Moment`, `LintPool.Session.run` — moments and runs.
* `LintPool.Ledger`, `LintPool.Session.ledger` — what the requests have to do with one another.
* `LintPool.Session.handed?` — the response that an event hands out.
* `LintPool.Session.Turn`, `LintPool.Session.StopTurn` — the steps of a request and of the stopping.
* `LintPool.Session.Move` — the ways in which a ledger moves on.

## Main results

* `LintPool.Session.move_step` — every step is one of the moves.
-/

namespace LintPool

/-! ## The ledger -/

/-- How far the end of a session is. -/
inductive Reader.Stage where
  /-- Frames may still come, or the program may still be waited for. -/
  | open
  /-- Why the session is over has been noted. -/
  | exiting
  /-- It has been said that the session is over. -/
  | clearing
  /-- The pending requests have been struck. -/
  | over
  deriving Repr, DecidableEq

/-- How far the end of a session is, as the reader has it. -/
def Reader.stage : Reader → Reader.Stage
  | .exiting => .exiting
  | .clearing => .clearing
  | .over => .over
  | _ => .open

/-- A reader that has struck the pending requests is over. -/
lemma Reader.eq_over_of_stage {reader : Reader} (h : reader.stage = .over) : reader = .over := by
  cases reader <;> first | rfl | cases h

/-- Whether a request waits for its reply. -/
def RequestPhase.isWaiting : RequestPhase → Bool
  | .waiting _ => true
  | _ => false

/-- A request that waits for its reply does so until some time. -/
lemma RequestPhase.exists_of_isWaiting {phase : RequestPhase} (h : phase.isWaiting = true) :
    ∃ deadline, phase = .waiting deadline := by
  cases phase with
  | waiting deadline => exact ⟨deadline, rfl⟩
  | _ => cases h

/-- Whether the request to shut down may be among the pending ones. -/
def StopPhase.isAsking : StopPhase → Bool
  | .sending | .waiting _ | .withdrawing => true
  | _ => false

/-- Whether the request to shut down is behind the stopping. -/
def StopPhase.isLate : StopPhase → Bool
  | .closing | .locking | .reaping _ | .killing | .over => true
  | _ => false

/-- What the requests of a session have to do with one another. -/
structure Ledger where
  /-- The root that the worker works for. -/
  root : Path
  /-- The time that a request has. -/
  requestTimeout : Span
  /-- The numbers that a reply is handed to. -/
  pending : List Nat
  /-- The next number. -/
  nextId : Nat
  /-- The requests. -/
  requests : List Request
  /-- How far the end of the session is. -/
  stage : Reader.Stage
  /-- Whether it has been said that the session is over. -/
  exited : Bool
  /-- Why it is over. -/
  exitReason : Option String
  /-- Whether the stopping of the worker has been ordered. -/
  disposed : Bool
  /-- How far the stopping is. -/
  stopping : Option Stopping

/-- The request of a number. -/
def Ledger.request? (l : Ledger) (id : Nat) : Option Request :=
  l.requests.find? (·.id = id)

namespace Session

/-- The ledger of a session. -/
def ledger (s : Session) : Ledger where
  root := s.root
  requestTimeout := s.requestTimeout
  pending := s.pending
  nextId := s.nextId
  requests := s.requests
  stage := s.reader.stage
  exited := s.exited
  exitReason := s.exitReason
  disposed := s.disposed
  stopping := s.stopping

/-! ## Moments and runs -/

/-- The time, and what comes about. -/
structure Moment where
  /-- The time. -/
  now : Instant
  /-- What comes about. -/
  event : Event

/-- The session after some moments. -/
def run (s : Session) (ms : List Moment) : Session :=
  ms.foldl (fun s m => s.step m.now m.event) s

/-- A run in two parts. -/
lemma run_append (s : Session) (ms ns : List Moment) : s.run (ms ++ ns) = (s.run ms).run ns :=
  List.foldl_append

/-- A run and one more moment. -/
lemma run_concat (s : Session) (ms : List Moment) (m : Moment) :
    s.run (ms ++ [m]) = (s.run ms).step m.now m.event := by
  rw [run_append]
  rfl

/-- The response that an event hands out, whether somebody waits for it or not. -/
def handed? (s : Session) : Event → Option (Nat × Reply)
  | .reader =>
    match s.reader with
    | .reading _ (frame :: _) _ =>
      match Incoming.ofFrame? frame with
      | some (.response id reply) => some (id, reply)
      | _ => none
    | _ => none
  | _ => none

/-- Responses are handed out only while the reader reads. -/
lemma stage_of_handed? {s : Session} {e : Event} {id : Nat} {reply : Reply}
    (h : s.handed? e = some (id, reply)) :
    s.reader.stage = .open := by
  cases e with
  | reader =>
    cases hreader : s.reader with
    | reading _ _ _ => rfl
    | _ => simp [handed?, hreader] at h
  | _ => cases h

/-! ## Moves -/

/-- What a request that withdraws is told. -/
def withdrawalMessage (s : Session) (task : Task) : Withdrawal → String
  | .sessionOver => s.exitMessage
  | .inputClosed => "worker stdin closed"
  | .timedOut => s.timeoutMessage task

/-- The steps of a request: the phase that it comes to, and the numbers that a reply is handed to
then. -/
inductive Turn (s : Session) (now : Instant) (r : Request) : RequestPhase → List Nat → Prop where
  | registered (h : r.phase = .registering) : Turn s now r .checking (s.pending ++ [r.id])
  | passed (h : r.phase = .checking) (hs : s.exited = false) : Turn s now r .sending s.pending
  | turnedAway (h : r.phase = .checking) (hs : s.exited = true) :
    Turn s now r (.withdrawing .sessionOver) s.pending
  | queued (h : r.phase = .sending) :
    Turn s now r (.waiting (deadlineAfter now s.requestTimeout)) s.pending
  | inputClosed (h : r.phase = .sending) : Turn s now r (.withdrawing .inputClosed) s.pending
  | settled {deadline : Instant} (h : r.phase = .waiting deadline) {reply : Reply}
    (hr : r.reply = some reply) : Turn s now r (.finished (r.task.settle reply)) s.pending
  | cutOff {deadline : Instant} (h : r.phase = .waiting deadline) (hr : r.reply = none)
    (hp : r.id ∉ s.pending) : Turn s now r (.finished (.error (s.crashed s.exitMessage))) s.pending
  | expired {deadline : Instant} (h : r.phase = .waiting deadline) (hr : r.reply = none)
    (hp : r.id ∈ s.pending) (hd : deadline.nanos ≤ now.nanos) :
    Turn s now r (.withdrawing .timedOut) s.pending
  | withdrew {cause : Withdrawal} (h : r.phase = .withdrawing cause) :
    Turn s now r (.finished (.error (s.crashed (s.withdrawalMessage r.task cause))))
      (s.pending.filter (· ≠ r.id))

/-- The steps of the stopping: how far it is then, the numbers that a reply is handed to, and the
next number. -/
inductive StopTurn (s : Session) (t : Stopping) : Stopping → List Nat → Nat → Prop where
  | numbered {deadline : Instant} (h : t.phase = .draining deadline) :
    StopTurn s t { t with id := some s.nextId, phase := .registering } s.pending (s.nextId + 1)
  | registered {id : Nat} (h : t.phase = .registering) (hid : t.id = some id) :
    StopTurn s t { t with phase := .sending } (s.pending ++ [id]) s.nextId
  | asked (h : t.phase = .sending) (deadline : Instant) :
    StopTurn s t { t with phase := .waiting deadline } s.pending s.nextId
  | gaveUp (h : t.phase.isAsking = true) :
    StopTurn s t { t with phase := .withdrawing } s.pending s.nextId
  | struck {id : Nat} (h : t.phase = .withdrawing) (hid : t.id = some id) :
    StopTurn s t { t with phase := .closing } (s.pending.filter (· ≠ id)) s.nextId
  | onward {phase : StopPhase} (h : t.phase.isAsking = false ∨ t.id = none)
    (hlate : phase.isLate = true) : StopTurn s t { t with phase } s.pending s.nextId

/-- The ways in which a ledger moves on. -/
inductive Move (s : Session) (now : Instant) : Event → Ledger → Prop where
  | begun (task : Task) (params : Json) (h : s.isDown now = false) :
    Move s now (.begin task params)
      { s.ledger with
        nextId := s.nextId + 1
        requests := s.requests ++ [⟨s.nextId, task, params, none, .registering⟩] }
  | turned (r : Request) (hr : s.request? r.id = some r) {phase : RequestPhase} {pending : List Nat}
    (h : Turn s now r phase pending) :
    Move s now (.request r.id)
      { s.ledger with requests := (s.setPhase r.id phase).requests, pending }
  | stoppedBy (r : Request) (hr : s.request? r.id = some r) {phase : RequestPhase}
    {pending : List Nat} (h : Turn s now r phase pending) (hs : s.disposed = false)
    (deadline : Instant) :
    Move s now (.request r.id)
      { s.ledger with
        requests := (s.setPhase r.id phase).requests
        pending
        disposed := true
        stopping := some ⟨.draining deadline, none, false⟩ }
  | abandoned (id : Nat) :
    Move s now (.abandoned id) { s.ledger with requests := s.requests.filter (·.id ≠ id) }
  | answered (id : Nat) (reply : Reply) (hhanded : s.handed? .reader = some (id, reply))
    (hp : id ∈ s.pending) :
    Move s now .reader
      { s.ledger with
        pending := s.pending.filter (· ≠ id)
        requests := (s.mapRequest id fun r => { r with reply := some reply }).requests
        stopping := s.stopping.map fun t =>
          if t.id = some id then { t with answered := true } else t }
  | unheard (id : Nat) (reply : Reply) (hhanded : s.handed? .reader = some (id, reply))
    (hp : id ∉ s.pending) : Move s now .reader s.ledger
  | noted (reason : String) (h : s.reader = .noting reason) :
    Move s now .reader { s.ledger with exitReason := some reason, stage := .exiting }
  | exited (h : s.reader = .exiting) :
    Move s now .reader { s.ledger with exited := true, stage := .clearing }
  | cleared (h : s.reader = .clearing) :
    Move s now .reader { s.ledger with pending := [], stage := .over }
  | disposed (e : Event) (he : e = .dispose ∨ e = .watchdog) (h : s.disposed = false)
    (deadline : Instant) :
    Move s now e
      { s.ledger with disposed := true, stopping := some ⟨.draining deadline, none, false⟩ }
  | stopped (t t' : Stopping) (ht : s.stopping = some t) {pending : List Nat} {nextId : Nat}
    (h : StopTurn s t t' pending nextId) :
    Move s now .stopping { s.ledger with pending, nextId, stopping := some t' }
  | aside (e : Event) (h : s.handed? e = none) : Move s now e s.ledger

/-- The root and the time that a request has stay as they are. -/
lemma Move.settings_eq {s : Session} {now : Instant} {e : Event} {l : Ledger}
    (h : Move s now e l) : l.root = s.root ∧ l.requestTimeout = s.requestTimeout := by
  cases h <;> exact ⟨rfl, rfl⟩

/-- A step that a request takes is one of its turns; a request that was not answered in time may
order the stopping of the worker on top of that. -/
lemma stepRequest_cases {s s' : Session} {now : Instant} {r : Request}
    (hr : s.request? r.id = some r) (h : s.stepRequest r.id now = some s') :
    ∃ phase pending, Turn s now r phase pending ∧
      (s'.ledger = { s.ledger with requests := (s.setPhase r.id phase).requests, pending } ∨
        s.disposed = false ∧ ∃ deadline, s'.ledger =
          { s.ledger with
            requests := (s.setPhase r.id phase).requests
            pending
            disposed := true
            stopping := some ⟨.draining deadline, none, false⟩ }) := by
  simp only [stepRequest, hr] at h
  split at h
  · cases h
    exact ⟨_, _, .registered ‹_›, .inl rfl⟩
  · unfold stepChecking at h
    split at h <;> cases h
    · exact ⟨_, _, .turnedAway ‹_› ‹_›, .inl rfl⟩
    · exact ⟨_, _, .passed ‹_› (Bool.eq_false_iff.2 ‹_›), .inl rfl⟩
  · unfold stepSending enqueue? at h
    split at h
    · cases h
      exact ⟨_, _, .inputClosed ‹_›, .inl rfl⟩
    · split at h <;> cases h
      exact ⟨_, _, .queued ‹_›, .inl rfl⟩
  · unfold stepWaiting at h
    split at h
    · cases h
      exact ⟨_, _, .settled ‹_› ‹_›, .inl rfl⟩
    · split at h
      · cases h
        exact ⟨_, _, .cutOff ‹_› ‹_› (by simpa using ‹(!s.pending.contains r.id) = true›), .inl rfl⟩
      · split at h <;> cases h
        have hp : r.id ∈ s.pending := by simpa using ‹¬ (!s.pending.contains r.id) = true›
        exact ⟨_, _, .expired ‹_› ‹_› hp ‹_›, .inl rfl⟩
  · rename_i cause hphase
    cases h
    refine ⟨_, _, .withdrew hphase, ?_⟩
    cases cause with
    | sessionOver => exact .inl rfl
    | inputClosed => exact .inl rfl
    | timedOut =>
      simp only [stepWithdrawing, dispose]
      split
      · exact .inl rfl
      · rename_i hdisposed
        exact .inr ⟨Bool.eq_false_iff.2 hdisposed, _, rfl⟩
  · cases h

/-- The step of a request is one of its turns. -/
lemma move_request (s : Session) (now : Instant) (id : Nat) :
    Move s now (.request id) ((s.stepRequest id now).getD s).ledger := by
  cases h : s.stepRequest id now with
  | none => exact .aside _ rfl
  | some s' =>
    obtain ⟨r, hr⟩ : ∃ r, s.request? id = some r := by
      cases hr : s.request? id with
      | none => simp [stepRequest, hr] at h
      | some r => exact ⟨r, rfl⟩
    have hid : r.id = id := by simpa using List.find?_some hr
    subst hid
    obtain ⟨phase, pending, hturn, hledger | ⟨hdisposed, deadline, hledger⟩⟩ :=
      stepRequest_cases hr h
    · rw [Option.getD_some, hledger]
      exact .turned r hr hturn
    · rw [Option.getD_some, hledger]
      exact .stoppedBy r hr hturn hdisposed deadline

/-- Ordering the stopping of the worker begins it, or does nothing. -/
lemma move_dispose (s : Session) (now : Instant) {e : Event} (he : e = .dispose ∨ e = .watchdog)
    (watchdog : Watchdog) : Move s now e ({ s with watchdog }.dispose now).ledger := by
  unfold dispose
  split
  · exact .aside e (by rcases he with rfl | rfl <;> rfl)
  · rename_i hdisposed
    exact Move.disposed (s := s) e he (Bool.eq_false_iff.2 hdisposed) _

/-- The step of the stopping is one of its turns. -/
lemma move_stopping (s : Session) (now : Instant) :
    Move s now .stopping ((s.stepStopping now).getD s).ledger := by
  unfold stepStopping
  split
  · exact .aside _ rfl
  · rename_i t ht
    obtain ⟨phase, number, answered⟩ := t
    cases phase with
    | draining deadline =>
      dsimp only
      unfold stepDraining
      split
      · split
        · exact .stopped _ _ ht (.onward (.inl rfl) rfl)
        · exact .stopped _ _ ht (.numbered rfl)
      · exact .aside _ rfl
    | registering =>
      cases number with
      | none => exact .stopped _ _ ht (.onward (.inr rfl) rfl)
      | some id => exact .stopped _ _ ht (.registered rfl rfl)
    | sending =>
      cases number with
      | none => exact .stopped _ _ ht (.onward (.inr rfl) rfl)
      | some id =>
        dsimp only
        unfold stepShutdownSending enqueue?
        split
        · exact .stopped _ _ ht (.gaveUp rfl)
        · split
          · exact .stopped _ _ ht (.asked rfl _)
          · exact .aside _ rfl
    | waiting deadline =>
      cases number with
      | none => exact .stopped _ _ ht (.onward (.inr rfl) rfl)
      | some id =>
        dsimp only
        split
        · exact .stopped _ _ ht (.gaveUp rfl)
        · exact .aside _ rfl
    | withdrawing =>
      cases number with
      | none => exact .stopped _ _ ht (.onward (.inr rfl) rfl)
      | some id => exact .stopped _ _ ht (.struck rfl rfl)
    | closing =>
      dsimp only
      unfold stepClosing enqueue?
      split
      · exact .stopped _ _ ht (.onward (.inl rfl) rfl)
      · split
        · exact .stopped _ _ ht (.onward (.inl rfl) rfl)
        · exact .aside _ rfl
    | locking =>
      dsimp only
      unfold stepLocking
      split
      · exact .aside _ rfl
      · exact .stopped _ _ ht (.onward (.inl rfl) rfl)
    | reaping deadline =>
      dsimp only
      split
      · exact .stopped _ _ ht (.onward (.inl rfl) rfl)
      · split
        · exact .stopped _ _ ht (.onward (.inl rfl) rfl)
        · exact .aside _ rfl
    | killing =>
      dsimp only
      split
      · exact .stopped _ _ ht (.onward (.inl rfl) rfl)
      · exact .aside _ rfl
    | _ => exact .aside _ rfl

/-- The reader goes on to where it is as far from the end as before. -/
lemma move_setReader (s : Session) (now : Instant) {e : Event} (hhanded : s.handed? e = none)
    {reader : Reader} (hstage : reader.stage = s.reader.stage) (keeper : Option Keeper) :
    Move s now e { s with reader, keeper }.ledger := by
  have hledger : { s with reader, keeper }.ledger = s.ledger := by
    simp only [ledger, hstage]
  rw [hledger]
  exact .aside e hhanded

/-- The reader hands out a response, or lets a frame pass. -/
lemma move_dispatch (s : Session) (now : Instant) {decoder : FrameDecoder} {frame : Json}
    {inbox : List Json} {reason : Option String}
    (hreader : s.reader = .reading decoder (frame :: inbox) reason) :
    Move s now .reader
      ({ s with reader := .reading decoder inbox reason }.dispatch frame).ledger := by
  have hledger : { s with reader := .reading decoder inbox reason }.ledger = s.ledger := by
    simp only [ledger, hreader, Reader.stage]
  unfold dispatch
  split
  · rename_i id reply hframe
    have hhanded : s.handed? .reader = some (id, reply) := by
      simp only [handed?, hreader, hframe]
    unfold answer
    split
    · rename_i hp
      have hp : id ∈ s.pending := List.contains_iff_mem.1 hp
      have hmove : Move s now .reader _ := .answered id reply hhanded hp
      rw [ledger, hreader] at hmove
      exact hmove
    · rename_i hp
      have hp : id ∉ s.pending := fun hmem => hp (List.contains_iff_mem.2 hmem)
      rw [hledger]
      exact .unheard id reply hhanded hp
  · rename_i hframe
    rw [hledger]
    exact .aside _ (by simp only [handed?, hreader, hframe])
  · rename_i hframe
    rw [hledger]
    exact .aside _ (by simp only [handed?, hreader, hframe])

/-- The step of the reader hands out a response, or brings the end of the session nearer. -/
lemma move_reader (s : Session) (now : Instant) :
    Move s now .reader ((s.stepReader now).getD s).ledger := by
  unfold stepReader
  split
  · exact move_dispatch s now ‹_›
  · rename_i hreader
    exact move_setReader s now (by simp only [handed?, hreader]) (by rw [hreader]; rfl) _
  · rename_i hreader
    exact .aside _ (by simp only [handed?, hreader])
  · rename_i reason hreader
    have hhanded : s.handed? .reader = none := by simp only [handed?, hreader]
    unfold stepReaderLocking
    split
    · exact .aside _ hhanded
    · split
      · exact move_setReader s now hhanded (by rw [hreader]; rfl) _
      · exact move_setReader s now hhanded (by rw [hreader]; rfl) _
  · rename_i reason deadline hreader
    have hhanded : s.handed? .reader = none := by simp only [handed?, hreader]
    unfold stepAwaiting
    split
    · exact move_setReader s now hhanded (by rw [hreader]; rfl) _
    · split
      · exact move_setReader s now hhanded (by rw [hreader]; rfl) _
      · exact .aside _ hhanded
  · exact .noted _ ‹_›
  · exact .exited ‹_›
  · exact .cleared ‹_›
  · rename_i hreader
    exact .aside _ (by simp only [handed?, hreader])

/-- What the writer does is no business of the requests. -/
lemma ledger_stepWriter (s : Session) : (s.stepWriter.getD s).ledger = s.ledger := by
  unfold stepWriter
  split <;> rfl

/-- The output of the worker is no business of the requests until a frame is handed out. -/
lemma ledger_setReading (s : Session) {decoder decoder' : FrameDecoder} {inbox inbox' : List Json}
    {reason reason' : Option String} (hreader : s.reader = .reading decoder inbox reason) :
    { s with reader := .reading decoder' inbox' reason' }.ledger = s.ledger := by
  simp only [ledger, hreader, Reader.stage]

/-- **Every step** is one of the moves. -/
lemma move_step (s : Session) (now : Instant) (e : Event) :
    Move s now e (s.step now e).ledger := by
  cases e with
  | begin task params =>
    dsimp only [step]
    unfold Session.begin
    split
    · exact .aside _ rfl
    · rename_i hdown
      exact .begun task params (Bool.eq_false_iff.2 hdown)
  | request id => exact move_request s now id
  | abandoned id =>
    dsimp only [step]
    unfold abandon
    split
    · exact .aside _ rfl
    · dsimp only
      split
      · exact .abandoned id
      · exact .abandoned id
  | dispose => exact move_dispose s now (.inl rfl) s.watchdog
  | stopping => exact move_stopping s now
  | watchdog =>
    dsimp only [step]
    unfold stepWatchdog
    split
    · exact .aside _ rfl
    · split
      · split
        · exact .aside _ rfl
        · split
          · exact move_dispose s now (.inr rfl) .over
          · exact .aside _ rfl
      · exact .aside _ rfl
  | writer =>
    dsimp only [step]
    rw [ledger_stepWriter]
    exact .aside _ rfl
  | reader => exact move_reader s now
  | accepted n =>
    dsimp only [step]
    unfold accept
    split <;> exact .aside _ rfl
  | inputBroken =>
    dsimp only [step]
    unfold breakInput
    split <;> exact .aside _ rfl
  | output bytes =>
    dsimp only [step]
    unfold receive
    split
    · dsimp only
      rw [ledger_setReading s ‹_›]
      exact .aside _ rfl
    · exact .aside _ rfl
  | outputClosed =>
    dsimp only [step]
    unfold closeOutput
    split
    · dsimp only
      rw [ledger_setReading s ‹_›]
      exact .aside _ rfl
    · exact .aside _ rfl
  | ended ending =>
    dsimp only [step]
    split <;> exact .aside _ rfl

/-- The root and the time that a request has stay as they are throughout a run. -/
lemma settings_run (s : Session) (ms : List Moment) :
    (s.run ms).root = s.root ∧ (s.run ms).requestTimeout = s.requestTimeout := by
  induction ms generalizing s with
  | nil => exact ⟨rfl, rfl⟩
  | cons m ms ih =>
    obtain ⟨hroot, htimeout⟩ := (move_step s m.now m.event).settings_eq
    obtain ⟨hroot', htimeout'⟩ := ih (s.step m.now m.event)
    exact ⟨hroot'.trans hroot, htimeout'.trans htimeout⟩

/-- Some moments without any time between them. -/
def atOnce (es : List Event) : List Moment := es.map fun e => ⟨⟨0⟩, e⟩

/-- A session to try things with. -/
def sample : Session := start ⟨"/root"⟩ (.ofSeconds 60) ⟨0⟩ ⟨0⟩

end Session

end LintPool
