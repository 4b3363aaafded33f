import LintPool.Proofs.Session.Inbox
import LintPool.Proofs.Session.Replies
import LintPool.Proofs.Worker.Answers

set_option autoImplicit false

/-!
# A reply of any shape settles its request

When the reader looks at a frame with the number of a pending request, whatever else is in it, the
request is handed a reply and keeps it. As soon as the request waits for its reply, it is settled
with what the reply comes to, and never as if the worker had died. A worker may also answer a
request that is not even sent, because there is no room for it among the orders of the writer; if
the writer then ends first, the request still fails with that.

## Main definitions

* `LintPool.Session.Due` — a request is as good as settled with a result.

## Main results

* `LintPool.Session.handed_run` — a request keeps the reply that it was handed.
* `LintPool.Session.due_run` — what is due stays due, whatever comes.
* `LintPool.Session.answered_request_completes` — the request of a number that a frame carries
  completes with what the frame comes to.
* `LintPool.Session.not_every_answered_request_spared` — unless it never comes to wait.
-/

namespace LintPool.Session

variable {s : Session} {r : Request}

/-! ## The reply of a request -/

/-- A response is handed out just if the reader looks at a frame that is one. -/
lemma handed?_reader_iff {id : Nat} {reply : Reply} :
    s.handed? .reader = some (id, reply) ↔ ∃ frame, s.reader.inbox.head? = some frame ∧
      Incoming.ofFrame? frame = some (.response id reply) := by
  cases hreader : s.reader with
  | reading decoder inbox reason =>
    cases inbox with
    | nil => simp [handed?, hreader, Reader.inbox]
    | cons frame inbox =>
      simp only [handed?, hreader, Reader.inbox, List.head?_cons, Option.some.injEq,
        exists_eq_left']
      cases Incoming.ofFrame? frame with
      | none => simp
      | some incoming => cases incoming <;> simp
  | _ => simp [handed?, hreader, Reader.inbox]

/-- A response is handed out just if the reader looks at an object that carries its number, and then
it is the reply in the fields of that. -/
lemma handed?_eq_some_iff {id : Nat} {reply : Reply} :
    s.handed? .reader = some (id, reply) ↔
      ∃ fields, s.reader.inbox.head? = some (.obj fields) ∧
        (Json.lookup "id" fields).bind Json.word64? = some id ∧ reply = .ofFields fields := by
  simp only [handed?_reader_iff, ofFrame?_eq_response_iff]
  constructor
  · rintro ⟨_, hframe, fields, rfl, hid, hreply⟩
    exact ⟨fields, hframe, hid, hreply⟩
  · rintro ⟨fields, hframe, hid, hreply⟩
    exact ⟨_, hframe, fields, rfl, hid, hreply⟩

/-- **A request keeps the reply that it was handed**, throughout every run. -/
theorem handed_run (hs : s.ledger.Sound) (hr : s.request? r.id = some r) {reply : Reply}
    (hreply : r.reply = some reply) (ms : List Moment) :
    ∀ r', (s.run ms).request? r.id = some r' → r'.task = r.task ∧ r'.reply = some reply := by
  refine request_run hs hr (P := fun _ r' => r'.task = r.task ∧ r'.reply = some reply)
    ⟨rfl, hreply⟩ ?_ ms
  rintro ms now e r₁ r₂ hr₁ - ⟨htask, hreply₁⟩ hfate
  cases hfate with
  | kept _ _ => exact ⟨htask, hreply₁⟩
  | turned _ => exact ⟨htask, hreply₁⟩
  | answered _ _ _ hp =>
    -- Only a pending request is handed a reply, and that has none yet.
    have hnone := ((sound_run hs ms).fits r₁ (mem_of_request? hr₁).1).listed hp
    cases hnone.1.symm.trans hreply₁

/-- A waiting request with a reply is settled by it at its step. -/
lemma Turn.of_waiting_handed {now : Instant} {phase : RequestPhase} {pending : List Nat}
    (h : Turn s now r phase pending) (hwaiting : r.phase.isWaiting = true) {reply : Reply}
    (hreply : r.reply = some reply) : phase = .finished (r.task.settle reply) := by
  obtain ⟨deadline, hphase⟩ := RequestPhase.exists_of_isWaiting hwaiting
  cases h with
  | settled _ hreply' =>
    cases hreply.symm.trans hreply'
    rfl
  | cutOff _ hnone _ => cases hnone.symm.trans hreply
  | expired _ hnone _ _ => cases hnone.symm.trans hreply
  | _ => cases hphase.symm.trans ‹r.phase = _›

/-! ## Requests that are as good as settled -/

/-- The request of a number is as good as settled with a result: it is over with that, or waits and
has a reply that comes to that. -/
def Due (s : Session) (id : Nat) (result : CallResult) : Prop :=
  ∃ r, s.request? id = some r ∧ (r.phase = .finished result ∨
    r.phase.isWaiting = true ∧ ∃ reply, r.reply = some reply ∧ r.task.settle reply = result)

section

variable {id : Nat} {result : CallResult}

/-- A request is over with a result just if that can be fetched. -/
lemma result?_eq_some_iff :
    s.result? id = some result ↔ ∃ r, s.request? id = some r ∧ r.phase = .finished result := by
  unfold result?
  cases hr : s.request? id with
  | none => simp
  | some r =>
    obtain ⟨_, _, _, _, phase⟩ := r
    cases phase <;> simp

/-- A request that is due is over with its result, or not over. -/
lemma Due.result? (h : s.Due id result) : s.result? id = none ∨ s.result? id = some result := by
  obtain ⟨r, hr, hfinished | ⟨hwaiting, -⟩⟩ := h
  · exact .inr (result?_eq_some_iff.2 ⟨r, hr, hfinished⟩)
  · refine .inl (Option.eq_none_iff_forall_ne_some.2 fun other hother => ?_)
    obtain ⟨r', hr', hfinished⟩ := result?_eq_some_iff.1 hother
    cases hr.symm.trans hr'
    rw [hfinished] at hwaiting
    cases hwaiting

/-- Nothing but its caller's turning away keeps a request from what is due. -/
lemma Due.step (h : s.Due id result) (hs : s.ledger.Sound) (now : Instant) {e : Event}
    (he : e ≠ .abandoned id) : (s.step now e).Due id result := by
  obtain ⟨r, hr, hphase⟩ := h
  obtain ⟨hmem, rfl⟩ := mem_of_request? hr
  have hfate := fate_step hr now e
  unfold Due
  generalize (s.step now e).request? r.id = o at hfate ⊢
  cases hfate with
  | kept _ _ => exact ⟨r, rfl, hphase⟩
  | turned hturn =>
    rcases hphase with hfinished | ⟨hwaiting, reply, hreply, hsettle⟩
    · exact absurd hfinished (hturn.not_finished result)
    · exact ⟨_, rfl, .inl ((hturn.of_waiting_handed hwaiting hreply).trans (by rw [hsettle]))⟩
  | answered _ _ _ hp =>
    obtain ⟨hnone, houtside⟩ := (hs.fits r hmem).listed hp
    rcases hphase with hfinished | ⟨-, reply, hreply, -⟩
    · rw [hfinished] at houtside
      cases houtside
    · cases hnone.symm.trans hreply
  | abandoned => exact absurd rfl he

/-- **What is due stays due**, throughout every run in which the caller does not turn away. -/
theorem due_run (h : s.Due id result) (hs : s.ledger.Sound) (ms : List Moment)
    (hstay : ∀ m ∈ ms, m.event ≠ .abandoned id) : (s.run ms).Due id result := by
  induction ms generalizing s with
  | nil => exact h
  | cons m ms ih =>
    obtain ⟨hm, hms⟩ := List.forall_mem_cons.1 hstay
    exact ih (h.step hs m.now hm) (hs.move (move_step s m.now m.event)) hms

/-- What is due comes at the next step of the request, whenever that is. -/
lemma Due.result?_step (h : s.Due id result) (now : Instant) :
    (s.step now (.request id)).result? id = some result := by
  obtain ⟨r, hr, hphase⟩ := h
  obtain ⟨-, rfl⟩ := mem_of_request? hr
  refine result?_eq_some_iff.2 ?_
  rcases hphase with hfinished | ⟨hwaiting, reply, hreply, rfl⟩
  · have hstep : s.step now (.request r.id) = s := by
      simp only [Session.step, stepRequest, hr, hfinished, Option.getD_none]
    rw [hstep]
    exact ⟨r, hr, hfinished⟩
  · obtain ⟨deadline, hphase⟩ := RequestPhase.exists_of_isWaiting hwaiting
    exact ⟨_, request?_settled hr hphase hreply now, rfl⟩

/-- What is due has come when no task can go on. -/
lemma Due.result?_of_quiet (h : s.Due id result) (hs : s.ledger.Sound) {now : Instant}
    (hquiet : s.stepAny now = none) : s.result? id = some result := by
  obtain ⟨r, hr, hfinished | ⟨hwaiting, reply, hreply, -⟩⟩ := h
  · exact result?_eq_some_iff.2 ⟨r, hr, hfinished⟩
  · obtain ⟨deadline, hphase⟩ := RequestPhase.exists_of_isWaiting hwaiting
    have hfinished : r.isFinished = false := by rw [Request.isFinished, hphase]
    have hanswered : r.reply ≠ none := by rw [hreply]; exact Option.some_ne_none reply
    have hsending := (sending_of_answered hs hquiet (mem_of_request? hr).1 hfinished hanswered).1
    cases hphase.symm.trans hsending

end

/-! ## Replies of any shape -/

/-- **A reply of any shape settles its request, and never as a crash.** In every run, when the
reader looks at a frame that carries the number of a pending request, whatever else is in it:

* there is one thing that the frame comes to for the task of the request;
* that is no crash, and no turning away;
* if the frame carries the record of a finding of the task, and no error, it is that finding;
* once the request waits for its reply, at that moment or later, then as long as its caller does not
  turn away it ends with that and with nothing else: at its next step, and so whenever no task can
  go on.

**Proof sketch.** The frame has come out of the decoder, so it is orderly, and the reply in its
fields settles a request with the one thing that it comes to. The pending request is handed that
reply and keeps it; a waiting request with a reply can only be settled by it. -/
theorem answered_request_completes (root : Path) (requestTimeout idleTimeout : Span)
    (began : Instant) (ms : List Moment) :
    let s := (start root requestTimeout idleTimeout began).run ms
    ∀ fields id r, s.reader.inbox.head? = some (.obj fields) →
      (Json.lookup "id" fields).bind Json.word64? = some id → id ∈ s.pending →
      s.request? id = some r →
      ∃ result, (∀ other, Answers r.task fields other ↔ other = result) ∧
        (∀ e, result = .error e → e.isCrash = false ∧ e.isUnavailable = false) ∧
        (∀ f : Finding, f.task = r.task → (∀ e, ¬ CarriesError fields e) →
          Json.lookup "result" fields = some f.write → result = .ok (some f)) ∧
        ∀ now before r', let waited := (s.step now .reader).run before
          waited.request? id = some r' → r'.phase.isWaiting = true →
          ∀ after, (∀ m ∈ after, m.event ≠ .abandoned id) →
            ((waited.run after).result? id = none ∨ (waited.run after).result? id = some result) ∧
            ∀ later,
              ((waited.run after).step later (.request id)).result? id = some result ∧
              ((waited.run after).stepAny later = none →
                (waited.run after).result? id = some result) := by
  intro s fields id r hframe hid hpending hr
  have hs : s.ledger.Sound := sound_run (sound_start root requestTimeout idleTimeout began) ms
  have hfields : Json.Orderly (.obj fields) :=
    orderly_inbox (s := start root requestTimeout idleTimeout began)
      (fun _ h => absurd h List.not_mem_nil) ms _ (List.mem_of_head? hframe)
  obtain ⟨-, rfl⟩ := mem_of_request? hr
  refine ⟨r.task.settle (.ofFields fields), fun other => ?_, fun e he => ?_, ?_, ?_⟩
  · rw [← settle_eq_iff hfields, eq_comm]
  · exact ((settle_eq_iff hfields).1 rfl).not_crash he
  · intro f htask herror hresult
    rw [← htask]
    exact (settle_eq_iff hfields).2 (answers_write f herror hresult)
  · intro now before r' waited hr' hwaiting after hstay
    have hhanded := request?_handed (handed?_eq_some_iff.2 ⟨fields, hframe, hid, rfl⟩) now hr
    rw [if_pos ⟨rfl, hpending⟩] at hhanded
    have hs₁ : (s.step now .reader).ledger.Sound := hs.move (move_step s now .reader)
    obtain ⟨htask, hreply⟩ := handed_run (r := { r with reply := some (.ofFields fields) }) hs₁
      hhanded rfl before r' hr'
    have hdue : waited.Due r.id (r.task.settle (.ofFields fields)) :=
      ⟨r', hr', .inr ⟨hwaiting, _, hreply, by rw [htask]⟩⟩
    have hwaited : waited.ledger.Sound := sound_run hs₁ before
    have hlater := due_run hdue hwaited after hstay
    exact ⟨hlater.result?, fun later => ⟨hlater.result?_step later,
      hlater.result?_of_quiet (sound_run hwaited after)⟩⟩

/-- The failure that a call comes to, if it fails. -/
def failure? : CallResult → Option WorkerError
  | .error e => some e
  | .ok _ => none

/-- The failure of a result is the error that it is. -/
lemma failure?_eq_some_iff {result : CallResult} {e : WorkerError} :
    failure? result = some e ↔ result = .error e := by
  cases result <;> simp [failure?]

/-- A request is sent, and answered with a result beside an error that is no error record. -/
def explaining : List Moment :=
  atOnce [.begin .lint .null, .request 1, .request 1, .request 1,
    .output (Text.encode ("Content-Length:47\r\n\r\n" ++
      "\x7b\"error\":\x7b\"reason\":\"boom\"\x7d,\"id\":1,\"result\":[7]\x7d"))]

/-- An error that is no error record fails its request with its own text. -/
theorem answered_request_completes_explained :
    let s := sample.run explaining
    ∃ fields, s.reader.inbox.head? = some (.obj fields) ∧
      Answers .lint fields (.error (.failed "\x7b\"reason\":\"boom\"\x7d")) ∧
      ((s.step ⟨0⟩ .reader).step ⟨0⟩ (.request 1)).result? 1 =
        some (.error (.failed "\x7b\"reason\":\"boom\"\x7d")) := by
  intro s
  obtain ⟨hhanded, hpending, htask, hwaits, hfailure⟩ :
      (s.handed? .reader).map (·.1) = some 1 ∧ 1 ∈ s.pending ∧
      (s.request? 1).map (·.task) = some .lint ∧
      ((s.step ⟨0⟩ .reader).request? 1).any (·.phase.isWaiting) = true ∧
      (((s.step ⟨0⟩ .reader).step ⟨0⟩ (.request 1)).result? 1).bind failure? =
        some (.failed "\x7b\"reason\":\"boom\"\x7d") := by
    decide +kernel
  obtain ⟨⟨id, reply⟩, hhanded, rfl⟩ := Option.map_eq_some_iff.1 hhanded
  obtain ⟨fields, hframe, hid, -⟩ := handed?_eq_some_iff.1 hhanded
  obtain ⟨r, hr, htask⟩ := Option.map_eq_some_iff.1 htask
  obtain ⟨r', hr', hwaiting⟩ := (Option.any_eq_true _ _).1 hwaits
  obtain ⟨result, honly, -, -, hcompletes⟩ := answered_request_completes ⟨"/root"⟩
    (.ofSeconds 60) ⟨0⟩ ⟨0⟩ explaining fields 1 r hframe hid hpending hr
  obtain ⟨-, hnext⟩ := hcompletes ⟨0⟩ [] r' hr' hwaiting [] (fun _ hm => absurd hm List.not_mem_nil)
  have hresult : ((s.step ⟨0⟩ .reader).step ⟨0⟩ (.request 1)).result? 1 = some result :=
    (hnext ⟨0⟩).1
  rw [hresult, Option.bind_some, failure?_eq_some_iff] at hfailure
  subst hfailure
  rw [htask] at honly
  exact ⟨fields, hframe, (honly _).2 rfl, hresult⟩

/-- **Not every request that a frame answers is spared a crash**: one that still waits for room
among the orders of the writer has its reply, but fails when the worker's input breaks. -/
theorem not_every_answered_request_spared :
    ¬ ∀ (ms : List Moment) fields id r, let s := sample.run ms
      s.reader.inbox.head? = some (.obj fields) →
      (Json.lookup "id" fields).bind Json.word64? = some id → id ∈ s.pending →
      s.request? id = some r → ∀ now after, (∀ m ∈ after, m.event ≠ .abandoned id) →
        ∀ e, ((s.step now .reader).run after).result? id = some (.error e) →
          e.isCrash = false ∧ e.isUnavailable = false := by
  intro hall
  let ms := atOnce (bulkBegins ++ lastAnswered)
  let s := sample.run ms
  let after := atOnce [.inputBroken, .request 66, .request 66]
  have hwaits : s.writer.isHeld = true := isHeld_run_bulkBegins _ (by decide +kernel)
  have hheld : (s.step ⟨0⟩ .reader).writer.isHeld = true := by
    rw [writer_step hwaits rfl]
    exact hwaits
  have hbroken : (s.step ⟨0⟩ .reader).run after =
      (s.step ⟨0⟩ .reader).endWriter.run (atOnce [.request 66, .request 66]) :=
    run_inputBroken hheld _ _
  obtain ⟨hhanded, hpending, hrequest, hfailure⟩ :
      (s.handed? .reader).map (·.1) = some 66 ∧ 66 ∈ s.pending ∧
      (s.request? 66).isSome = true ∧
      (((s.step ⟨0⟩ .reader).endWriter.run (atOnce [.request 66, .request 66])).result? 66).bind
        failure? = some (.crashed ⟨"/root"⟩ "worker stdin closed") := by
    decide +kernel
  rw [← hbroken] at hfailure
  obtain ⟨⟨id, reply⟩, hhanded, rfl⟩ := Option.map_eq_some_iff.1 hhanded
  obtain ⟨fields, hframe, hid, -⟩ := handed?_eq_some_iff.1 hhanded
  obtain ⟨r, hr⟩ := Option.isSome_iff_exists.1 hrequest
  obtain ⟨result, hresult, hcrash⟩ := Option.bind_eq_some_iff.1 hfailure
  rw [failure?_eq_some_iff] at hcrash
  subst hcrash
  have hstay : ∀ m ∈ after, m.event ≠ .abandoned 66 := by
    simp [after, atOnce]
  obtain ⟨hspared, -⟩ := hall ms fields 66 r hframe hid hpending hr ⟨0⟩ after hstay _
    hresult
  cases hspared

end LintPool.Session
