import LintPool.Proofs.Session.Draining
import LintPool.Proofs.Session.Ending
import LintPool.Proofs.Session.Freed

set_option autoImplicit false

/-!
# Who is stranded on a worker that has ended

When the reader is over, every request that is not comes to its end without the worker program, and
fails if it was not answered before, except one: a request that was about to be queued, and for
which there is no room among the orders because the writer holds a frame that the pipe does not
take. Nobody tells that request that the session is over; it waits until the program reads, or until
its input breaks.

## Main definitions

* `LintPool.Piped.Finishes` — a request can come to its end without the worker program.

## Main results

* `LintPool.Piped.finishes_iff` — when a request does.
* `LintPool.Piped.finishes_unless_choked` — what becomes of every request when the reader is over.
* `LintPool.Piped.stranded_request` — a request that waits on after the end of the reader.
-/

namespace LintPool

namespace Session

variable {s : Session} {now : Instant}

/-- A request can take its own steps by itself. -/
lemma reaches_replicate (s : Session) (now : Instant) (id n : Nat) :
    s.Reaches now (s.run (List.replicate n ⟨now, .request id⟩)) now := by
  induction n generalizing s with
  | zero => exact .here
  | succ n ih => exact (Reaches.step now (e := .request id) trivial).trans (ih _)

/-- A request that is about to be queued and can take a step has room, or a writer that takes no
more. -/
lemma room_of_stepRequest {r : Request} (hr : s.request? r.id = some r)
    (hphase : r.phase = .sending) (h : (s.stepRequest r.id now).isSome = true) :
    s.writerOver = true ∨ s.queue.length < queueCapacity := by
  simp only [stepRequest, hr, hphase, stepSending, enqueue?] at h
  split at h
  · exact .inl ‹_›
  · split at h
    · exact .inr ‹_›
    · cases h

end Session

namespace Piped

variable {p q : Piped} {now later : Instant}

/-- The request of a number can come to its end without the worker program, with a result of which
something holds. -/
def Finishes (p : Piped) (now : Instant) (id : Nat) (P : CallResult → Prop) : Prop :=
  ∃ q later r result, p.Reaches now q later ∧ q.session.request? id = some r ∧
    r.phase = .finished result ∧ P result

/-- **When the reader is over, a request comes to its end without the worker program** unless it
waits for room in a choked session; if it was not answered before, it fails as the session did. -/
theorem finishes_iff (hp : p.Sound) (hover : p.session.reader.stage = .over) {r : Request}
    (hr : r ∈ p.session.requests) (hunder : r.isFinished = false) (now : Instant) :
    p.Finishes now r.id (fun result => r.reply = none →
        ∃ message, result = .error (.crashed p.session.root message)) ↔
      ¬ (r.phase = .sending ∧ p.session.works.Choked p.room) := by
  have hfound := Session.request?_of_mem hp.ledger.ids hr
  constructor
  · rintro ⟨q, later, r₁, result, hreach, hr₁, hfinished, -⟩ ⟨hphase, hc⟩
    obtain ⟨-, r₂, hr₂, hsending⟩ := sending_of_choked_reaches hreach hc hfound hphase
    cases hr₁.symm.trans hr₂
    cases hfinished.symm.trans hsending
  · intro hfree
    obtain ⟨q, later, r', hreach, hr', -, hsome⟩ := reaches_turn hp hfound hunder hfree now
    have hid : r'.id = r.id := (Session.mem_of_request? hr').2
    obtain ⟨ns, hns⟩ := hreach.exists_session_run
    have hover' : q.session.reader.stage = .over := hns ▸ (Session.over_run hover ns).1
    -- From its next step on nothing holds the request up.
    obtain ⟨r₁, hr₁, hfinished⟩ := Session.finished_of_room (hreach.sound hp).ledger hover'
      (hid ▸ hr') (fun hsending => Session.room_of_stepRequest (hid ▸ hr') hsending (hid ▸ hsome))
      (List.length_replicate (a := later))
    rw [List.map_replicate, hid] at hr₁
    obtain ⟨result, hresult⟩ := Request.exists_of_isFinished hfinished
    refine ⟨_, later, r₁, result, hreach.trans (.of_session (Session.reaches_replicate ..)), hr₁,
      hresult, fun hreply => ?_⟩
    rw [hns, ← Session.run_append] at hr₁
    exact (Session.unanswered_run hp.ledger hover hr hreply hunder _ r₁ hr₁).2 result hresult

/-- **What becomes of the requests to a worker that has ended.** Throughout every run of a session
and its pipe, whatever the pipe holds, when the reader is over:

* a request that is not over comes to its end without the worker program, and fails as the session
  did if it was not answered before, exactly if it does not wait for room among the orders of a
  choked session;
* one that does not wait, because the writer takes no more or there is room, ends with as many steps
  of its own as it has left, whenever they are taken, and nothing takes it away from its end;
* a request that waits for its reply ends at its next step: with the reply that it has, or failing
  for the reason that was noted;
* a request that was not answered before is never answered, and fails as the session did, if it
  ends at all;
* a request that has not looked yet whether the session is over never goes on to its reply;
* a request that begins from then on is refused, and nothing is queued for it.

And a request that waits without a reply when the pending ones are struck fails for the reason that
has been noted by then. -/
theorem finishes_unless_choked (root : Path) (requestTimeout idleTimeout : Span) (began : Instant)
    (capacity : Nat) (ms : List Moment) :
    let p := (start root requestTimeout idleTimeout began capacity).run ms
    let s := p.session
    (s.reader = .over →
      (∀ r ∈ s.requests, r.isFinished = false → ∀ now,
        (p.Finishes now r.id (fun result => r.reply = none →
            ∃ message, result = .error (.crashed root message)) ↔
          ¬ (r.phase = .sending ∧ s.works.Choked p.room))) ∧
      (∀ r ∈ s.requests,
        ((r.phase = .sending → s.writerOver = true ∨ s.queue.length < queueCapacity) →
          ∀ times : List Instant, times.length = r.phase.stepsLeft →
            ∃ r', (s.run (times.map fun time => ⟨time, .request r.id⟩)).request? r.id = some r' ∧
              r'.isFinished = true) ∧
        ∀ after r', (s.run after).request? r.id = some r' →
          r'.phase.stepsLeft ≤ r.phase.stepsLeft) ∧
      (∀ r ∈ s.requests, ∀ deadline, r.phase = .waiting deadline → ∀ now,
        (s.step now (.request r.id)).request? r.id =
          some { r with phase := .finished (r.outcome (.crashed root s.exitMessage)) }) ∧
      (∀ r ∈ s.requests, r.reply = none → r.isFinished = false → ∀ after r',
        (s.run after).request? r.id = some r' → r'.reply = none ∧
          ∀ result, r'.phase = .finished result →
            ∃ message, result = .error (.crashed root message)) ∧
      (∀ r ∈ s.requests, r.phase.isQueued = false → ∀ after r',
        (s.run after).request? r.id = some r' → r'.phase.isQueued = false) ∧
      ∀ after task params now, (s.run after).begin task params now =
        (.error (.crashed root "worker is no longer running"), s.run after)) ∧
    (s.reader = .clearing → ∃ reason, s.exitReason = some reason ∧
      ∀ r ∈ s.requests, ∀ deadline, r.phase = .waiting deadline → r.reply = none →
        ∀ now after r', ((s.step now .reader).run after).request? r.id = some r' →
          r'.phase = .waiting deadline ∨
            r'.phase = .finished (.error (.crashed root reason))) := by
  intro p s
  have hp : p.Sound := sound_run (sound_start root requestTimeout idleTimeout began capacity) ms
  have hs : s.ledger.Sound := hp.ledger
  have hroot : s.root = root := by
    obtain ⟨ns, hns⟩ :=
      (start root requestTimeout idleTimeout began capacity).exists_session_run ms
    rw [show s = _ from hns]
    exact (Session.settings_run _ ns).1
  rw [← hroot]
  constructor
  · intro hreader
    have hover : s.reader.stage = .over := by rw [hreader]; rfl
    refine ⟨fun r hr => finishes_iff hp hover hr,
      fun r hr => ⟨fun hroom times => Session.finished_of_room hs hover
        (Session.request?_of_mem hs.ids hr) hroom, Session.stepsLeft_run hs hover hr⟩,
      fun r hr _ hphase => Session.waiting_of_over hs hover hr hphase,
      fun r hr => Session.unanswered_run hs hover hr,
      fun r hr => Session.unqueued_run hs hover hr, ?_⟩
    intro after task params now
    rw [← (Session.settings_run s after).1]
    exact Session.begin_of_over (Session.sound_run hs after) (Session.over_run hover after).1 task
      params now
  · intro hclearing
    have hstage : s.reader.stage = .clearing := by rw [hclearing]; rfl
    cases hreason : s.exitReason with
    | none => cases hstage.symm.trans (hs.reasoned hreason)
    | some reason =>
      exact ⟨reason, rfl,
        fun r hr _ hphase hreply => Session.struck_run hs hclearing hreason hr hphase hreply⟩

/-- A request goes on to its reply, and then the worker closes its output and ends. -/
def cutShort : List Moment :=
  moments (Session.atOnce [.begin .lint .null, .request 1, .request 1, .request 1, .outputClosed,
    .reader, .reader, .ended (.exited 0), .reader, .reader, .reader, .reader])

/-- The request comes to its end, and fails for the reason that was noted. -/
theorem finishes_unless_choked_cutShort :
    let p := (start ⟨"/root"⟩ (.ofSeconds 60) ⟨0⟩ ⟨0⟩ pipeCapacity).run cutShort
    p.Finishes ⟨0⟩ 1 (fun result => ∃ message, result = .error (.crashed ⟨"/root"⟩ message)) ∧
      ∃ r, (p.session.step ⟨0⟩ (.request 1)).request? 1 = some r ∧
        r.phase = .finished (.error (.crashed ⟨"/root"⟩
          "worker closed its output (exit status: 0)")) := by
  intro p
  obtain ⟨hends, -, hwaiting, -⟩ :=
    (finishes_unless_choked ⟨"/root"⟩ (.ofSeconds 60) ⟨0⟩ ⟨0⟩ pipeCapacity cutShort).1 rfl
  have hmessage : p.session.exitMessage = "worker closed its output (exit status: 0)" := by
    decide +kernel
  have hfound : p.session.requests.any (fun r =>
      r.phase.isWaiting && r.id = 1 && r.reply.isNone) = true := by decide +kernel
  obtain ⟨r, hr, hwaits⟩ := List.any_eq_true.1 hfound
  simp only [Bool.and_eq_true, decide_eq_true_eq, Option.isNone_iff_eq_none] at hwaits
  obtain ⟨⟨hphase, hid⟩, hreply⟩ := hwaits
  obtain ⟨deadline, hphase⟩ := RequestPhase.exists_of_isWaiting hphase
  have hunder : r.isFinished = false := by rw [Request.isFinished, hphase]
  rw [← hid]
  obtain ⟨q, later, r', result, hreach, hr', hfinished, hcrashed⟩ :=
    (hends r hr hunder ⟨0⟩).2 fun h => (by cases hphase.symm.trans h.1)
  refine ⟨⟨q, later, r', result, hreach, hr', hfinished, hcrashed hreply⟩, _,
    hwaiting r hr deadline hphase ⟨0⟩, ?_⟩
  simp only [Request.outcome, hreply]
  rw [← hmessage]

/-- While the pipe does not take the first frame, one request more begins than there is room for;
then the worker program closes its output, but does not end in the time that it has. -/
def desertion : List Moment :=
  moments (Session.atOnce (Session.bulkBegins ++ Session.manyBegin ++
      [.outputClosed, .reader, .reader]) ++
    List.replicate 4 ⟨⟨shutdownTimeout.nanos⟩, .reader⟩)

/-- A session and its pipe after that. -/
def adrift : Piped :=
  (start ⟨"/root"⟩ (.ofSeconds 60) ⟨0⟩ ⟨0⟩ pipeCapacity).run desertion

/-- **A request may be stranded**: one that was not answered before the reader was over waits for
room among the orders for as long as the worker program does nothing and its caller does not give it
up, whatever time passes. -/
theorem stranded_request :
    adrift.session.reader = .over ∧ ∃ r, adrift.session.request? 66 = some r ∧ r.reply = none ∧
      ∀ after, (∀ m ∈ after, m.event.isProgram = false ∧ m.event ≠ .session (.abandoned 66)) →
        ∃ r', (adrift.run after).session.request? 66 = some r' ∧ r'.isFinished = false := by
  have hheld : adrift.room < adrift.session.writer.unwritten :=
    held_of_bulk rfl (by decide +kernel)
  obtain ⟨hstage, hfull, hliving, hphase, hsending⟩ : adrift.session.reader.stage = .over ∧
      queueCapacity ≤ adrift.session.works.queue.length ∧
      adrift.session.works.ending.isNone = true ∧ adrift.session.works.phase = none ∧
      (adrift.session.request? 66).any (fun r =>
        r.phase.isQueued && !r.phase.isWaiting && r.reply.isNone) = true := by
    decide +kernel
  have hc := choked_of_held hheld hfull (Option.isNone_iff_eq_none.1 hliving)
    fun _ h => by cases hphase.symm.trans h
  obtain ⟨r, hr, hfound⟩ := (Option.any_eq_true _ _).1 hsending
  simp only [Bool.and_eq_true, Bool.not_eq_true', Option.isNone_iff_eq_none] at hfound
  have hid : r.id = 66 := (Session.mem_of_request? hr).2
  have hsending : r.phase = .sending := RequestPhase.eq_sending hfound.1.1 hfound.1.2
  refine ⟨Reader.eq_over_of_stage hstage, r, hr, hfound.2, fun after hafter => ?_⟩
  rw [← hid] at hr ⊢
  rcases sending_run hc hr hsending after (fun m hm => (hafter m hm).1) with
    ⟨m, hm, hgivenUp⟩ | ⟨r', hr', hphase'⟩
  · exact absurd (hid ▸ hgivenUp) (hafter m hm).2
  · exact ⟨r', hr', by rw [Request.isFinished, hphase']⟩

end Piped

end LintPool
