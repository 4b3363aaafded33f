import LintPool.Proofs.Session.Held
import LintPool.Proofs.Session.Numbers
import LintPool.Proofs.Session.Quiet

set_option autoImplicit false

/-!
# Replies reach their own requests

Replies come in any order, twice, late, or for nobody. What a request comes to is nevertheless
settled by one of them at most: the first with its number that is handed out after the request has
been entered among the pending ones.

## Main definitions

* `LintPool.Session.heard` — the responses that are handed out in a run.
* `LintPool.Request.Told` — what a request has been told, by the responses since it was entered.

## Main results

* `LintPool.Session.told_run` — every request is told of the first response with its number.
* `LintPool.Session.timedOut_run` — one that was not answered in time is told of none.
* `LintPool.Session.replies_reach_their_requests` — both, that nobody else is told, and what is
  pending when no task can go on.
* `LintPool.Session.not_all_unfinished_pending` — a request that is answered before its frame is
  queued is pending no more, and not over.
-/

namespace LintPool

/-- What a request that has been entered has been told, by the responses since then. -/
structure Request.Told (r : Request) (root : Path) (responses : List (Nat × Reply)) : Prop where
  /-- The request has been entered. -/
  entered : r.phase ≠ .registering
  /-- As long as it goes on to its reply, it has been told of the first response with its number,
  and of no other. -/
  live : r.phase.isLive = true → r.reply = responses.lookup r.id
  /-- When it is over, that response settled it, or it failed as the session did. -/
  ended : ∀ result, r.phase = .finished result →
    (∃ reply, responses.lookup r.id = some reply ∧ result = r.task.settle reply) ∨
      ∃ message, result = .error (.crashed root message)

/-- What a reply complains of, if it is an error. -/
def Reply.complaint? : Reply → Option String
  | .error e => some e.message
  | .result _ => none

namespace Session

variable {s : Session} {now : Instant} {e : Event}

/-! ## Responses that are handed out -/

/-- The responses that are handed out in a run, whether somebody waits for them or not. -/
def heard (s : Session) : List Moment → List (Nat × Reply)
  | [] => []
  | m :: ms => (s.handed? m.event).toList ++ (s.step m.now m.event).heard ms

/-- The responses that are handed out in a run and one more moment. -/
lemma heard_concat (s : Session) (ms : List Moment) (m : Moment) :
    s.heard (ms ++ [m]) = s.heard ms ++ ((s.run ms).handed? m.event).toList := by
  induction ms generalizing s with
  | nil => simp [heard, run]
  | cons m' ms ih =>
    simp only [List.cons_append, heard, ih, List.append_assoc]
    rfl

/-! ## What a request is told -/

section

variable {r : Request} {root : Path} {responses : List (Nat × Reply)}

/-- What a request has been told by some responses is not unsaid by another. -/
lemma lookup_heard_of_some {id : Nat} {reply : Reply} (h : responses.lookup id = some reply)
    (more : List (Nat × Reply)) : (responses ++ more).lookup id = some reply := by
  rw [List.lookup_append, h]
  rfl

/-- A moment that keeps a request hands out no response that it should have been told of. -/
lemma told_kept (htold : r.Told root responses) (hfits : r.Fits s.reader.stage s.pending)
    (h : ∀ reply, s.handed? e = some (r.id, reply) → r.id ∉ s.pending) :
    r.Told root (responses ++ (s.handed? e).toList) where
  entered := htold.entered
  live hlive := by
    have hreply := htold.live hlive
    cases hr : r.reply with
    | some reply => exact (lookup_heard_of_some (hreply.symm.trans hr) _).symm
    | none =>
      -- A live request without a reply is pending, so the response has another number.
      rw [List.lookup_append, ← hreply, hr]
      cases hhanded : s.handed? e with
      | none => rfl
      | some response =>
        obtain ⟨id, reply⟩ := response
        have hne : r.id ≠ id := by
          rintro rfl
          have hopen : s.reader.stage ≠ .over := by
            rw [stage_of_handed? hhanded]
            simp
          exact h reply hhanded (hfits.awaited hlive hr hopen)
        have hbeq : (r.id == id) = false := beq_eq_false_iff_ne.2 hne
        rw [Option.toList_some, List.lookup_cons, hbeq]
        rfl
  ended result hresult := by
    rcases htold.ended result hresult with ⟨reply, hlookup, hsettled⟩ | hcrashed
    · exact .inl ⟨reply, lookup_heard_of_some hlookup _, hsettled⟩
    · exact .inr hcrashed

/-- A request that takes a step goes by what it has been told. -/
lemma told_turned (htold : r.Told s.root responses) {phase : RequestPhase} {pending : List Nat}
    (h : Turn s now r phase pending) : Request.Told { r with phase } s.root responses := by
  cases h with
  | registered hphase => exact absurd hphase htold.entered
  | passed hphase _ => exact ⟨by simp, fun _ => htold.live (by rw [hphase]; rfl), by simp⟩
  | turnedAway _ _ => exact ⟨by simp, fun hlive => (by cases hlive), by simp⟩
  | queued hphase => exact ⟨by simp, fun _ => htold.live (by rw [hphase]; rfl), by simp⟩
  | inputClosed _ => exact ⟨by simp, fun hlive => (by cases hlive), by simp⟩
  | settled hphase hreply =>
    refine ⟨by simp, fun hlive => (by cases hlive), ?_⟩
    rintro result ⟨⟩
    exact .inl ⟨_, (htold.live (by rw [hphase]; rfl)).symm.trans hreply, rfl⟩
  | cutOff _ _ _ =>
    refine ⟨by simp, fun hlive => (by cases hlive), ?_⟩
    rintro result ⟨⟩
    exact .inr ⟨_, rfl⟩
  | expired _ _ _ _ => exact ⟨by simp, fun hlive => (by cases hlive), by simp⟩
  | withdrew _ =>
    refine ⟨by simp, fun hlive => (by cases hlive), ?_⟩
    rintro result ⟨⟩
    exact .inr ⟨_, rfl⟩

/-- A pending request that is handed a reply has not been told of any before. -/
lemma told_answered (htold : r.Told root responses) (hfits : r.Fits s.reader.stage s.pending)
    {reply : Reply} (hhanded : s.handed? e = some (r.id, reply)) (hp : r.id ∈ s.pending) :
    Request.Told { r with reply := some reply } root (responses ++ (s.handed? e).toList) where
  entered := htold.entered
  live hlive := by
    have hnone : responses.lookup r.id = none := by
      rw [← htold.live hlive]
      exact (hfits.listed hp).1
    rw [List.lookup_append, hnone, hhanded]
    simp
  ended result hresult := by
    have houtside := (hfits.listed hp).2
    rw [show r.phase = .finished result from hresult] at houtside
    cases houtside

end

/-- What a moment leaves of a request goes by what it has been told. -/
lemma told_fate {r r' : Request} {responses : List (Nat × Reply)} (hs : s.ledger.Sound)
    (hr : s.request? r.id = some r) (htold : r.Told s.root responses)
    (h : Fate s now r e (some r')) :
    r'.task = r.task ∧ r'.Told s.root (responses ++ (s.handed? e).toList) := by
  have hfits := hs.fits r (mem_of_request? hr).1
  cases h with
  | kept _ h => exact ⟨rfl, told_kept htold hfits h⟩
  | turned hturn =>
    refine ⟨rfl, ?_⟩
    rw [show s.handed? (.request r.id) = none from rfl, Option.toList_none, List.append_nil]
    exact told_turned htold hturn
  | answered _ reply hhanded hp => exact ⟨rfl, told_answered htold hfits hhanded hp⟩

/-- A request is entered by its first step. -/
lemma request?_entered {r : Request} (hr : s.request? r.id = some r)
    (hphase : r.phase = .registering) (now : Instant) :
    (s.step now (.request r.id)).request? r.id = some { r with phase := .checking } := by
  have hstep : s.step now (.request r.id) = s.stepRegistering r := by
    simp only [step, stepRequest, hr, hphase, Option.getD_some]
  rw [hstep, stepRegistering, setPhase]
  exact request?_mapRequest_self (s := s.register r.id) hr (fun r => { r with phase := .checking })
    fun _ => rfl

/-- **Every request is told of the first response with its number** that is handed out after it was
entered, and of no other.

**Proof sketch.** By the fate of the request at each moment. A response with its number finds it
pending unless it has been told already or is on its way out; a response with another number leaves
it. -/
theorem told_run (hs : s.ledger.Sound) {r : Request} (hr : s.request? r.id = some r)
    (hphase : r.phase = .registering) (now : Instant) (ms : List Moment) :
    let entered := s.step now (.request r.id)
    ∀ r', (entered.run ms).request? r.id = some r' →
      r'.task = r.task ∧ r'.Told s.root (entered.heard ms) := by
  intro entered
  have hentered : entered.ledger.Sound := hs.move (move_step s now (.request r.id))
  have hr₁ : entered.request? r.id = some { r with phase := .checking } :=
    request?_entered hr hphase now
  have hroot : entered.root = s.root := (move_step s now (.request r.id)).settings_eq.1
  refine request_run (r := { r with phase := .checking }) hentered hr₁
    (P := fun ms r' => r'.task = r.task ∧ r'.Told s.root (entered.heard ms)) ?_ ?_ ms
  · exact ⟨rfl, by simp, fun _ => (hs.fits r (mem_of_request? hr).1).fresh hphase, by simp⟩
  · rintro ms now e r₁ r₂ hr₁ hid ⟨htask, htold⟩ hfate
    rw [heard_concat]
    have hroot' : (entered.run ms).root = s.root := (settings_run entered ms).1.trans hroot
    rw [← hroot'] at htold ⊢
    have hr₁ : (entered.run ms).request? r₁.id = some r₁ := by rw [hid]; exact hr₁
    obtain ⟨htask', htold'⟩ := told_fate (sound_run hentered ms) hr₁ htold hfate
    exact ⟨htask'.trans htask, htold'⟩

/-- A response leaves the requests of all other numbers as they are, and changes the request of its
own number at most by handing it the reply. -/
lemma request?_handed {id : Nat} {reply : Reply} (hhanded : s.handed? e = some (id, reply))
    (now : Instant) {r : Request} (hr : s.request? r.id = some r) :
    (s.step now e).request? r.id =
      some (if r.id = id ∧ id ∈ s.pending then { r with reply := some reply } else r) := by
  have hfate := fate_step hr now e
  generalize (s.step now e).request? r.id = o at hfate ⊢
  cases hfate with
  | kept _ h =>
    rw [if_neg]
    rintro ⟨rfl, hp⟩
    exact h reply hhanded hp
  | turned _ => cases hhanded
  | answered _ reply' hhanded' hp =>
    cases hhanded.symm.trans hhanded'
    rw [if_pos ⟨rfl, hp⟩]
  | abandoned => cases hhanded

/-- A frame that is no response leaves all requests as they are. -/
lemma request?_unhanded (hhanded : s.handed? .reader = none) (now : Instant) {r : Request}
    (hr : s.request? r.id = some r) : (s.step now .reader).request? r.id = some r := by
  have hfate := fate_step hr now .reader
  generalize (s.step now .reader).request? r.id = o at hfate ⊢
  cases hfate with
  | kept _ _ => rfl
  | answered _ _ hhanded' _ => cases hhanded.symm.trans hhanded'

/-- The wording for a request that was not answered in time stays the same. -/
lemma timeoutMessage_run (s : Session) (ms : List Moment) (task : Task) :
    (s.run ms).timeoutMessage task = s.timeoutMessage task := by
  unfold timeoutMessage
  rw [(settings_run s ms).2]

/-- A request that was not answered in time fails for that, whatever comes. -/
theorem timedOut_run (hs : s.ledger.Sound) {r : Request} (hr : s.request? r.id = some r)
    (hphase : r.phase = .withdrawing .timedOut) (ms : List Moment) :
    ∀ r', (s.run ms).request? r.id = some r' → r'.task = r.task ∧
      (r'.phase = .withdrawing .timedOut ∨
        r'.phase = .finished (.error (.crashed s.root (s.timeoutMessage r.task)))) := by
  refine request_run hs hr (P := fun _ r' => r'.task = r.task ∧
      (r'.phase = .withdrawing .timedOut ∨
        r'.phase = .finished (.error (.crashed s.root (s.timeoutMessage r.task)))))
    ⟨rfl, .inl hphase⟩ ?_ ms
  rintro ms now e r₁ r₂ - - ⟨htask, hphases⟩ hfate
  cases hfate with
  | kept _ _ => exact ⟨htask, hphases⟩
  | answered _ _ _ _ => exact ⟨htask, hphases⟩
  | turned hturn =>
    refine ⟨htask, .inr ?_⟩
    cases hphases with
    | inl hwithdrawing =>
      refine (hturn.of_withdrawing hwithdrawing).trans ?_
      rw [crashed, withdrawalMessage, (settings_run s ms).1, htask, timeoutMessage_run]
    | inr hfinished => exact absurd hfinished (hturn.not_finished _)

/-! ## Replies reach their own requests -/

/-- The number of the request to shut down is that of no request. -/
lemma shutdown_ne (hs : s.ledger.Sound) {id : Nat} (hid : s.stopping.bind (·.id) = some id)
    {r : Request} (hr : r ∈ s.requests) : r.id ≠ id := by
  obtain ⟨t, ht, hnumber⟩ := Option.bind_eq_some_iff.1 hid
  exact (hs.shutdown t id ht hnumber).2 r hr

/-- **Replies reach their own requests, and nobody else.** Throughout every run:

* no number is given out twice, and the numbers of the requests and of the request to shut down,
  which are all different, have been given out;
* a request that waits for its reply is completed, at its next step, by the first response with its
  number that was handed out after it had been entered; one that is over was completed by that
  response, or failed as the session did;
* a response changes no request but that of its number, and that only by handing it the reply; a
  frame that is no response changes none;
* a request that was not answered in time fails for that, whatever comes later;
* if nobody turns away, then whenever no task can go on by itself and the reader is not over, the
  pending numbers are, each once, those of the requests, and of the request to shut down, that are
  neither over nor answered, and an answered request that is not over waits for room among the
  orders of the writer. -/
theorem replies_reach_their_requests (root : Path) (requestTimeout idleTimeout : Span)
    (began : Instant) (ms : List Moment) :
    let first := start root requestTimeout idleTimeout began
    let s := first.run ms
    ((first.issued ms).Nodup ∧ s.Known (first.issued ms) ∧ (s.requests.map (·.id)).Nodup ∧
      ∀ id, s.stopping.bind (·.id) = some id → ∀ r ∈ s.requests, r.id ≠ id) ∧
    (∀ r, s.request? r.id = some r → r.phase = .registering → ∀ now after r',
      let entered := s.step now (.request r.id)
      (entered.run after).request? r.id = some r' →
        (∀ deadline reply, r'.phase = .waiting deadline →
          (entered.heard after).lookup r.id = some reply → ∀ later,
            ((entered.run after).step later (.request r.id)).request? r.id =
              some { r' with phase := .finished (r.task.settle reply) }) ∧
        ∀ result, r'.phase = .finished result →
          (∃ reply, (entered.heard after).lookup r.id = some reply ∧
            result = r.task.settle reply) ∨
          ∃ message, result = .error (.crashed root message)) ∧
    (∀ r, s.request? r.id = some r → ∀ now,
      (∀ id reply, s.handed? .reader = some (id, reply) →
        (s.step now .reader).request? r.id =
          some (if r.id = id ∧ id ∈ s.pending then { r with reply := some reply } else r)) ∧
      (s.handed? .reader = none → (s.step now .reader).request? r.id = some r)) ∧
    (∀ r, s.request? r.id = some r → r.phase = .withdrawing .timedOut → ∀ after r',
      (s.run after).request? r.id = some r' →
        r'.phase = .withdrawing .timedOut ∨
          r'.phase = .finished (.error (.crashed root (s.timeoutMessage r.task)))) ∧
    ((∀ m ∈ ms, ∀ id, m.event ≠ .abandoned id) → ∀ now, s.stepAny now = none →
      s.reader.stage ≠ .over →
        s.pending.Nodup ∧ (∀ id, id ∈ s.pending ↔ s.Unanswered id ∨ s.AsksToStop id) ∧
        ∀ r ∈ s.requests, r.isFinished = false → r.reply ≠ none →
          r.phase = .sending ∧ s.writerOver = false ∧ queueCapacity ≤ s.queue.length) := by
  intro first s
  have hfirst : first.ledger.Sound := sound_start root requestTimeout idleTimeout began
  have hs : s.ledger.Sound := sound_run hfirst ms
  have hroot : s.root = root := (settings_run first ms).1
  refine ⟨⟨?_, known_run root requestTimeout idleTimeout began ms, hs.ids, ?_⟩, ?_, ?_, ?_, ?_⟩
  · rw [issued_eq_range' hfirst ms]
    exact List.nodup_range'
  · exact fun id hid r hr => shutdown_ne hs hid hr
  · intro r hr hphase now after r' entered hr'
    obtain ⟨htask, htold⟩ := told_run hs hr hphase now after r' hr'
    have hid : r'.id = r.id := (mem_of_request? hr').2
    rw [← hid] at hr' ⊢
    rw [← htask, ← hroot]
    refine ⟨fun deadline reply hwaiting hheard later => ?_, htold.ended⟩
    have hreply : r'.reply = some reply := (htold.live (by rw [hwaiting]; rfl)).trans hheard
    exact request?_settled hr' hwaiting hreply later
  · exact fun r hr now => ⟨fun id reply hhanded => request?_handed hhanded now hr,
      fun hhanded => request?_unhanded hhanded now hr⟩
  · intro r hr hphase after r' hr'
    rw [← hroot]
    exact (timedOut_run hs hr hphase after r' hr').2
  · intro hstay now hquiet hreader
    have howned : s.ledger.Owned :=
      owned_run hfirst (fun _ hid => absurd hid List.not_mem_nil) ms hstay
    exact ⟨hs.pendings, mem_pending_iff hs howned hquiet hreader,
      fun r hr => sending_of_answered hs hquiet hr⟩

/-- The second of two requests is answered first, and twice over. -/
def crossing : List Moment :=
  atOnce [.request 1, .request 1, .request 2, .request 2, .request 2,
    .output (Text.encode "Content-Length:8\r\n\r\n\x7b\"id\":2\x7d"),
    .output (Text.encode "Content-Length:8\r\n\r\n\x7b\"id\":2\x7d"),
    .output (Text.encode ("Content-Length:42\r\n\r\n" ++
      "\x7b\"id\":1,\"error\":\x7b\"code\":7,\"message\":\"no\"\x7d\x7d")),
    .reader, .reader, .reader]

/-- The first of two requests gets its own reply, though the second was answered before. -/
theorem replies_reach_their_requests_crossing :
    let s := sample.run (atOnce [.begin .lint .null, .begin .resolve .null])
    let answered := (s.step ⟨0⟩ (.request 1)).run crossing
    ∃ r, (answered.step ⟨0⟩ (.request 1)).request? 1 = some r ∧
      r.phase = .finished (.error (.failed "no")) := by
  intro s answered
  have hmain := replies_reach_their_requests ⟨"/root"⟩ (.ofSeconds 60) ⟨0⟩ ⟨0⟩
    (atOnce [.begin .lint .null, .begin .resolve .null])
  obtain ⟨-, hfirst, -⟩ := hmain
  have hr : s.request? 1 = some ⟨1, .lint, .null, none, .registering⟩ := rfl
  have hwaits : (answered.request? 1).any (·.phase.isWaiting) = true := by decide +kernel
  have hheard : (((s.step ⟨0⟩ (.request 1)).heard crossing).lookup 1).bind Reply.complaint? =
      some "no" := by decide +kernel
  obtain ⟨r, hr', hphase⟩ := (Option.any_eq_true _ _).1 hwaits
  obtain ⟨deadline, hphase⟩ := RequestPhase.exists_of_isWaiting hphase
  obtain ⟨reply, hreply, hcomplaint⟩ := Option.bind_eq_some_iff.1 hheard
  obtain ⟨hcompleted, -⟩ :=
    hfirst ⟨1, .lint, .null, none, .registering⟩ hr rfl ⟨0⟩ crossing r hr'
  refine ⟨_, hcompleted deadline reply hphase hreply ⟨0⟩, ?_⟩
  cases reply with
  | error e =>
    have hmessage : e.message = "no" := Option.some.inj hcomplaint
    simp only [Task.settle, hmessage]
  | result _ => cases hcomplaint

/-- A request begins whose frame no pipe holds, and the worker's input takes as much of it as a pipe
does. -/
def bulkBegins : List Event :=
  [.begin .lint bulk, .request 1, .request 1, .request 1, .writer, .accepted pipeCapacity]

/-- One request more begins than fits among the orders of the writer. -/
def manyBegin : List Event :=
  (List.range 65).flatMap fun i =>
    [.begin .lint .null, .request (i + 2), .request (i + 2), .request (i + 2)]

/-- The last of these requests is responded to. -/
def lastAnswered : List Event :=
  manyBegin ++ [.output (Text.encode "Content-Length:9\r\n\r\n\x7b\"id\":66\x7d")]

/-- While the writer waits for the worker's input, one request more begins than fits among its
orders, and a response to that one is handed out. -/
def flood : List Moment := atOnce (bulkBegins ++ (lastAnswered ++ [.reader]))

/-- After its beginning, a writer waits for the worker's input to take the rest of the long
frame. -/
lemma isHeld_bulkBegins : (sample.run (atOnce bulkBegins)).writer.isHeld = true := by
  have htaken : (sample.run (atOnce bulkBegins.dropLast)).writer =
      .writing (frameOf (requestFrame 1 .lint bulk)) := rfl
  have hsplit : atOnce bulkBegins =
      atOnce bulkBegins.dropLast ++ [⟨⟨0⟩, .accepted pipeCapacity⟩] := rfl
  rw [hsplit, run_concat, step, accept, htaken, Writer.isHeld_iff, Writer.unwritten,
    List.length_drop]
  exact Nat.sub_pos_of_lt (pipeCapacity_lt_bulk 1 .lint)

/-- The writer waits for the worker's input as long as its frame does not move. -/
lemma isHeld_run_bulkBegins (es : List Event) (hes : ∀ e ∈ es, e.movesFrame = false) :
    (sample.run (atOnce (bulkBegins ++ es))).writer.isHeld = true := by
  have hms : ∀ m ∈ atOnce es, m.event.movesFrame = false := by
    intro m hm
    obtain ⟨e, he, rfl⟩ := List.mem_map.1 hm
    exact hes e he
  have hsplit : atOnce (bulkBegins ++ es) = atOnce bulkBegins ++ atOnce es := List.map_append
  rw [hsplit, run_append, writer_run isHeld_bulkBegins _ hms]
  exact isHeld_bulkBegins

/-- **Not every request that is not over is pending** when no task can go on: a worker may answer a
request while the request still waits for room, and then it is pending no more. -/
theorem not_all_unfinished_pending :
    ¬ ∀ (ms : List Moment) (now : Instant),
      let s := sample.run ms
      (∀ m ∈ ms, ∀ id, m.event ≠ .abandoned id) → s.stepAny now = none →
        s.reader.stage ≠ .over →
          ∀ r ∈ s.requests, r.phase ≠ .registering → r.isFinished = false → r.id ∈ s.pending := by
  intro hall
  have hstay : ∀ m ∈ flood, ∀ id, m.event ≠ .abandoned id := by
    simp only [flood, bulkBegins, lastAnswered, manyBegin, atOnce, List.mem_map, List.mem_append,
      List.mem_flatMap]
    rintro _ ⟨e, he | (⟨i, -, he⟩ | he) | he, rfl⟩ id rfl <;> simp at he
  obtain ⟨⟨hrequests, hothers, hstopping⟩, hreader, hfound⟩ :
      (((sample.run flood).stepAnyRequest ⟨0⟩).isNone = true ∧
        ((sample.run flood).stepReader ⟨0⟩).isNone = true ∧
        (((sample.run flood).stepStopping ⟨0⟩).or ((sample.run flood).stepWatchdog ⟨0⟩)).isNone =
          true) ∧
      (sample.run flood).reader.stage ≠ .over ∧
      (sample.run flood).requests.any (fun r =>
        r.phase.isQueued && !(sample.run flood).pending.contains r.id) = true := by
    decide +kernel
  have hwriter : (sample.run flood).stepWriter = none := by
    refine stepWriter_of_held (isHeld_run_bulkBegins _ ?_)
    decide +kernel
  have hquiet : (sample.run flood).stepAny ⟨0⟩ = none := by
    rw [Option.isNone_iff_eq_none] at hrequests hothers hstopping
    rw [stepAny, hrequests, hothers, hwriter, hstopping]
    rfl
  obtain ⟨r, hr, hfound⟩ := List.any_eq_true.1 hfound
  simp only [Bool.and_eq_true, Bool.not_eq_true', List.contains_eq_mem, decide_eq_false_iff_not]
    at hfound
  obtain ⟨hqueued, hmem⟩ := hfound
  have hregistered : r.phase ≠ .registering := by
    intro hphase
    rw [hphase] at hqueued
    cases hqueued
  have hfinished : r.isFinished = false := by
    cases hphase : r.phase with
    | finished _ =>
      rw [hphase] at hqueued
      cases hqueued
    | _ => rw [Request.isFinished, hphase]
  exact hmem (hall flood ⟨0⟩ hstay hquiet hreader r hr hregistered hfinished)

end Session

end LintPool
