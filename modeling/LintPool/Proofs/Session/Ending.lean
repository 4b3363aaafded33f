import LintPool.Proofs.Session.Numbers
import LintPool.Proofs.Session.Quiet

set_option autoImplicit false

/-!
# Requests after the end of the reader

When the worker's output has ended, nobody hands out replies any more. A request is entered among
the pending ones before it looks whether the session is over, and the reader says that the session
is over before it strikes the pending ones. So a request that goes on to its reply is struck, and
every other turns away by itself: none waits for a reply that nobody can give. Only a request that
has passed its look before and waits for room among the orders is not told.

## Main definitions

* `LintPool.RequestPhase.stepsLeft` — the number of steps that a request takes after the end.
* `LintPool.Request.outcome` — what a request comes to when no reply can come any more.

## Main results

* `LintPool.Session.unanswered_run` — a request that was not answered before the end fails.
* `LintPool.Session.struck_run` — one that waited when the pending ones were struck fails for the
  reason that was noted.
* `LintPool.Session.finished_of_room` — a request that does not wait for room ends by itself.
-/

namespace LintPool

/-- The number of steps that a request takes of its own when the session is over. -/
def RequestPhase.stepsLeft : RequestPhase → Nat
  | .registering => 3
  | .checking | .sending => 2
  | .waiting _ | .withdrawing _ => 1
  | .finished _ => 0

/-- A request is over when it has no steps left. -/
lemma Request.isFinished_iff {r : Request} : r.isFinished = true ↔ r.phase.stepsLeft = 0 := by
  unfold isFinished
  cases r.phase <;> simp [RequestPhase.stepsLeft]

/-- What a request comes to when no reply can come any more: what the reply that it has makes of it,
or a failure. -/
def Request.outcome (r : Request) (failure : WorkerError) : CallResult :=
  match r.reply with
  | some reply => r.task.settle reply
  | none => .error failure

namespace Session

variable {s : Session} {now : Instant} {e : Event}

/-! ## The end lasts -/

/-- When the reader is over, it stays so, and what it has noted stays. -/
lemma Move.over_eq {l : Ledger} (h : Move s now e l) (hover : s.reader.stage = .over) :
    l.stage = .over ∧ l.exitReason = s.exitReason := by
  cases h with
  | noted reason h => rw [h] at hover; cases hover
  | exited h => rw [h] at hover; cases hover
  | cleared h => rw [h] at hover; cases hover
  | _ => exact ⟨hover, rfl⟩

/-- When the reader is over, it stays so throughout every run, and what it has noted stays. -/
lemma over_run (hover : s.reader.stage = .over) (ms : List Moment) :
    (s.run ms).reader.stage = .over ∧ (s.run ms).exitReason = s.exitReason := by
  induction ms generalizing s with
  | nil => exact ⟨hover, rfl⟩
  | cons m ms ih =>
    obtain ⟨hstage, hreason⟩ := (move_step s m.now m.event).over_eq hover
    obtain ⟨hstage', hreason'⟩ := ih hstage
    exact ⟨hstage', hreason'.trans hreason⟩

/-- When the reader is over, it has been said that the session is. -/
lemma exited_of_over (hs : s.ledger.Sound) (hover : s.reader.stage = .over) : s.exited = true :=
  hs.exited.2 (.inr hover)

/-! ## The steps of a request after the end -/

section

variable {r : Request} {phase : RequestPhase} {pending : List Nat}

/-- A request without a reply ends by failing as the session did. -/
lemma Turn.crashed_of_unanswered (h : Turn s now r phase pending) (hreply : r.reply = none) :
    ∀ result, phase = .finished result → ∃ message, result = .error (.crashed s.root message) := by
  rintro result rfl
  cases h with
  | settled _ hr => cases hreply.symm.trans hr
  | cutOff _ _ _ => exact ⟨_, rfl⟩
  | withdrew _ => exact ⟨_, rfl⟩

/-- After it has been said that the session is over, no request goes on to its reply. -/
lemma Turn.not_queued (h : Turn s now r phase pending) (hexited : s.exited = true)
    (hqueued : r.phase.isQueued = false) : phase.isQueued = false := by
  cases h with
  | passed _ hs => cases hs.symm.trans hexited
  | queued hphase => rw [hphase] at hqueued; cases hqueued
  | _ => rfl

/-- When the reader is over, a waiting request without a reply fails for the reason that was
noted. -/
lemma Turn.of_waiting (h : Turn s now r phase pending) (hfits : r.Fits s.reader.stage s.pending)
    (hover : s.reader.stage = .over) {deadline : Instant} (hphase : r.phase = .waiting deadline)
    (hreply : r.reply = none) : phase = .finished (.error (s.crashed s.exitMessage)) := by
  have hcut : r.id ∉ s.pending := hfits.cut hover (by rw [hphase]; rfl)
  cases h with
  | settled _ hr => cases hreply.symm.trans hr
  | cutOff _ _ _ => rfl
  | expired _ _ hp _ => exact absurd hp hcut
  | _ => cases hphase.symm.trans ‹r.phase = _›

/-- After it has been said that the session is over, no request comes to wait for room. -/
lemma Turn.not_sending (h : Turn s now r phase pending) (hexited : s.exited = true) :
    phase ≠ .sending := by
  cases h with
  | passed _ hs => cases hs.symm.trans hexited
  | _ => simp

/-- When the reader is over, every step of a request brings it nearer to its end by one. -/
lemma Turn.stepsLeft (h : Turn s now r phase pending) (hfits : r.Fits s.reader.stage s.pending)
    (hexited : s.exited = true) (hover : s.reader.stage = .over) :
    phase.stepsLeft + 1 = r.phase.stepsLeft := by
  cases h with
  | passed _ hs => cases hs.symm.trans hexited
  | expired hphase _ hp _ =>
    exact absurd hp (hfits.cut hover (by rw [hphase]; rfl))
  | _ => rw [‹r.phase = _›]; rfl

end

/-- A step that a request takes is a turn of it. -/
lemma turn_of_stepRequest {s' : Session} {r : Request} (hr : s.request? r.id = some r)
    (h : s.stepRequest r.id now = some s') :
    ∃ phase pending, Turn s now r phase pending ∧ s'.request? r.id = some { r with phase } := by
  obtain ⟨phase, pending, hturn, hledger⟩ := stepRequest_cases hr h
  refine ⟨phase, pending, hturn, ?_⟩
  have hrequests : s'.requests = (s.setPhase r.id phase).requests := by
    rcases hledger with hledger | ⟨-, deadline, hledger⟩
    · exact congrArg Ledger.requests hledger
    · exact congrArg Ledger.requests hledger
  rw [request?, hrequests]
  exact request?_mapRequest_self hr (fun r => { r with phase }) fun _ => rfl

/-- When the reader is over, a request that is not takes a step that brings it nearer to its end, or
waits for room among the orders of the writer. -/
lemma progress_of_over (hs : s.ledger.Sound) (hover : s.reader.stage = .over) {r : Request}
    (hr : r ∈ s.requests) (hfinished : r.isFinished = false) (now : Instant) :
    (∃ r', (s.step now (.request r.id)).request? r.id = some r' ∧ r'.phase ≠ .sending ∧
      r'.phase.stepsLeft + 1 = r.phase.stepsLeft) ∨
      r.phase = .sending ∧ s.writerOver = false ∧ queueCapacity ≤ s.queue.length := by
  have hfits : r.Fits s.reader.stage s.pending := hs.fits r hr
  have hexited := exited_of_over hs hover
  have hr : s.request? r.id = some r := request?_of_mem hs.ids hr
  cases h : s.stepRequest r.id now with
  | some s' =>
    obtain ⟨phase, pending, hturn, hr'⟩ := turn_of_stepRequest hr h
    refine .inl ⟨{ r with phase }, ?_, hturn.not_sending hexited,
      hturn.stepsLeft hfits hexited hover⟩
    simpa only [step, h, Option.getD_some] using hr'
  | none =>
    rcases stuck_request hr h with hdone | hsending | ⟨deadline, hphase, -, hp⟩
    · cases hfinished.symm.trans hdone
    · exact .inr hsending
    · exact absurd hp (hfits.cut hover (by rw [hphase]; rfl))

/-- When the reader is over, nothing takes a request away from its end. -/
lemma stepsLeft_run (hs : s.ledger.Sound) (hover : s.reader.stage = .over) {r : Request}
    (hr : r ∈ s.requests) (ms : List Moment) :
    ∀ r', (s.run ms).request? r.id = some r' → r'.phase.stepsLeft ≤ r.phase.stepsLeft := by
  refine request_run hs (request?_of_mem hs.ids hr)
    (P := fun _ r' => r'.phase.stepsLeft ≤ r.phase.stepsLeft) (Nat.le_refl _) ?_ ms
  rintro ms now e r₁ r₂ hr₁ hid hle hfate
  have hrun := sound_run hs ms
  have hover' := (over_run hover ms).1
  cases hfate with
  | kept _ _ => exact hle
  | answered _ _ _ _ => exact hle
  | turned hturn =>
    have hfits := hrun.fits r₁ (mem_of_request? hr₁).1
    have hnearer := hturn.stepsLeft hfits (exited_of_over hrun hover') hover'
    exact Nat.le_trans (Nat.le_of_lt (Nat.lt_of_succ_le (Nat.le_of_eq hnearer))) hle

/-! ## What becomes of the requests -/

/-- When the reader is over, a waiting request ends at its next step: it takes its reply, or fails
for the reason that was noted. -/
theorem waiting_of_over (hs : s.ledger.Sound) (hover : s.reader.stage = .over) {r : Request}
    (hr : r ∈ s.requests) {deadline : Instant} (hphase : r.phase = .waiting deadline)
    (now : Instant) :
    (s.step now (.request r.id)).request? r.id =
      some { r with phase := .finished (r.outcome (s.crashed s.exitMessage)) } := by
  have hcut : r.id ∉ s.pending := (hs.fits r hr).cut hover (by rw [hphase]; rfl)
  have hr : s.request? r.id = some r := request?_of_mem hs.ids hr
  cases hreply : r.reply with
  | some reply =>
    have houtcome : r.outcome (s.crashed s.exitMessage) = r.task.settle reply := by
      rw [Request.outcome, hreply]
    rw [houtcome, ← hreply]
    exact request?_settled hr hphase hreply now
  | none =>
    have houtcome : r.outcome (s.crashed s.exitMessage) = .error (s.crashed s.exitMessage) := by
      rw [Request.outcome, hreply]
    rw [houtcome, ← hreply]
    exact request?_cutOff hr hphase hreply hcut now

/-- **A request that was not answered before the end is never answered**, and if it ends, it fails
as the session did. -/
theorem unanswered_run (hs : s.ledger.Sound) (hover : s.reader.stage = .over) {r : Request}
    (hr : r ∈ s.requests) (hreply : r.reply = none) (hfinished : r.isFinished = false)
    (ms : List Moment) :
    ∀ r', (s.run ms).request? r.id = some r' → r'.reply = none ∧
      ∀ result, r'.phase = .finished result →
        ∃ message, result = .error (.crashed s.root message) := by
  refine request_run hs (request?_of_mem hs.ids hr) (P := fun _ r' => r'.reply = none ∧
      ∀ result, r'.phase = .finished result →
        ∃ message, result = .error (.crashed s.root message)) ⟨hreply, ?_⟩ ?_ ms
  · intro result hphase
    rw [Request.isFinished, hphase] at hfinished
    cases hfinished
  · rintro ms now e r₁ r₂ - - ⟨hreply₁, hcrashed⟩ hfate
    cases hfate with
    | kept _ _ => exact ⟨hreply₁, hcrashed⟩
    | answered _ reply hhanded _ =>
      cases (stage_of_handed? hhanded).symm.trans (over_run hover ms).1
    | turned hturn =>
      rw [← (settings_run s ms).1]
      exact ⟨hreply₁, hturn.crashed_of_unanswered hreply₁⟩

/-- A request that has not looked yet whether the session is over when the reader is never goes on
to its reply. -/
theorem unqueued_run (hs : s.ledger.Sound) (hover : s.reader.stage = .over) {r : Request}
    (hr : r ∈ s.requests) (hqueued : r.phase.isQueued = false) (ms : List Moment) :
    ∀ r', (s.run ms).request? r.id = some r' → r'.phase.isQueued = false := by
  refine request_run hs (request?_of_mem hs.ids hr) (P := fun _ r' => r'.phase.isQueued = false)
    hqueued ?_ ms
  rintro ms now e r₁ r₂ - - hqueued₁ hfate
  have hexited : (s.run ms).exited = true :=
    exited_of_over (sound_run hs ms) (over_run hover ms).1
  cases hfate with
  | kept _ _ => exact hqueued₁
  | answered _ _ _ _ => exact hqueued₁
  | turned hturn => exact hturn.not_queued hexited hqueued₁

/-- **A request that waits without a reply when the pending ones are struck** fails for the reason
that was noted, and cannot end otherwise. -/
theorem struck_run (hs : s.ledger.Sound) (hclearing : s.reader = .clearing) {reason : String}
    (hreason : s.exitReason = some reason) {r : Request} (hr : r ∈ s.requests)
    {deadline : Instant} (hphase : r.phase = .waiting deadline) (hreply : r.reply = none)
    (now : Instant) (ms : List Moment) :
    ∀ r', ((s.step now .reader).run ms).request? r.id = some r' →
      r'.phase = .waiting deadline ∨ r'.phase = .finished (.error (.crashed s.root reason)) := by
  have hcleared : s.step now .reader = { s with pending := [], reader := .over } := by
    simp only [step, stepReader, hclearing, Option.getD_some]
  have hs' : (s.step now .reader).ledger.Sound := hs.move (move_step s now .reader)
  rw [hcleared] at hs' ⊢
  generalize hstruck : ({ s with pending := [], reader := .over } : Session) = struck at hs' ⊢
  have hover : struck.reader.stage = .over := by rw [← hstruck]; rfl
  have hroot : struck.root = s.root := by rw [← hstruck]
  have hnoted : struck.exitReason = some reason := by rw [← hstruck]; exact hreason
  have hr' : struck.request? r.id = some r := by
    rw [← hstruck]
    exact request?_of_mem hs.ids hr
  have hstory := request_run hs' hr' (P := fun _ r' => r'.reply = none ∧
    (r'.phase = .waiting deadline ∨ r'.phase = .finished (.error (.crashed s.root reason))))
    ⟨hreply, .inl hphase⟩ ?_ ms
  · exact fun r' hr' => (hstory r' hr').2
  · rintro ms now e r₁ r₂ hr₁ hid ⟨hreply₁, hphases⟩ hfate
    obtain ⟨hover', hnoted'⟩ := over_run hover ms
    cases hfate with
    | kept _ _ => exact ⟨hreply₁, hphases⟩
    | answered _ reply hhanded _ => cases (stage_of_handed? hhanded).symm.trans hover'
    | turned hturn =>
      refine ⟨hreply₁, .inr ?_⟩
      cases hphases with
      | inl hwaiting =>
        have hfits := (sound_run hs' ms).fits r₁ (mem_of_request? hr₁).1
        refine (hturn.of_waiting hfits hover' hwaiting hreply₁).trans ?_
        rw [crashed, exitMessage, (settings_run struck ms).1, hroot, hnoted', hnoted,
          Option.getD_some]
      | inr hfinished => exact absurd hfinished (hturn.not_finished _)

/-- When the reader is over, a request that begins is refused, and nothing is queued for it. -/
theorem begin_of_over (hs : s.ledger.Sound) (hover : s.reader.stage = .over) (task : Task)
    (params : Json) (now : Instant) :
    s.begin task params now = (.error (.crashed s.root "worker is no longer running"), s) := by
  have hdown : s.isDown now = true := by
    simp only [isDown, exited_of_over hs hover, Bool.or_true, Bool.true_or]
  unfold Session.begin
  rw [if_pos hdown]
  rfl

/-- **A request that has room for its order, or a writer that takes no more, is not held up**: when
the reader is over, it ends with as many steps of its own as it has left, whenever they are
taken. -/
theorem finished_of_room (hs : s.ledger.Sound) (hover : s.reader.stage = .over) {r : Request}
    (hr : s.request? r.id = some r)
    (hroom : r.phase = .sending → s.writerOver = true ∨ s.queue.length < queueCapacity)
    {times : List Instant} (htimes : times.length = r.phase.stepsLeft) :
    ∃ r', (s.run (times.map fun time => ⟨time, .request r.id⟩)).request? r.id = some r' ∧
      r'.isFinished = true := by
  induction times generalizing s r with
  | nil => exact ⟨r, hr, Request.isFinished_iff.2 htimes.symm⟩
  | cons time times ih =>
    have hunder : r.isFinished = false := by
      rw [Bool.eq_false_iff, ne_eq, Request.isFinished_iff, ← htimes]
      exact Nat.succ_ne_zero _
    have hmove := move_step s time (.request r.id)
    rcases progress_of_over hs hover (mem_of_request? hr).1 hunder time with
      ⟨r', hr', hready, hsteps⟩ | ⟨hsending, hopen, hfull⟩
    · have hid : r'.id = r.id := (mem_of_request? hr').2
      rw [← hid] at hr' hmove ⊢
      refine ih (hs.move hmove) (hmove.over_eq hover).1 hr' (fun h => absurd h hready) ?_
      rw [List.length_cons] at htimes
      omega
    · rcases hroom hsending with hclosed | hroom
      · cases hopen.symm.trans hclosed
      · exact absurd hroom (Nat.not_lt.2 hfull)

end Session

end LintPool
