import LintPool.Proofs.Session.Draining

set_option autoImplicit false

/-!
# A session that is down stays down

A session is down when its stopping has been ordered, when its worker's output has ended, or when it
has been without a request for too long. The first two are said once and for all. The third is
worked out from the clock whenever somebody asks; it cannot be taken back either, because a request
asks first: only a request that begins or ends puts the clock on, none is under way in an idle
session, and none begins in it.

## Main definitions

* `LintPool.Session.InOrder` — times that never go back.

## Main results

* `LintPool.Session.kept_of_still` — nothing puts the clock of a still session on.
* `LintPool.Session.isDown_step`, `LintPool.Session.isDown_run` — what is down stays down.
* `LintPool.Session.ordered_cases` — who orders the stopping, and the watch only when the session is
  idle.
* `LintPool.Session.down_for_good` — so no later request begins.
-/

namespace LintPool.Session

variable {s : Session} {now asked later : Instant}

/-- Times that never go back. -/
def InOrder (times : List Instant) : Prop :=
  times.Pairwise fun a b => a.nanos ≤ b.nanos

instance (times : List Instant) : Decidable (InOrder times) :=
  inferInstanceAs (Decidable (times.Pairwise _))

/-! ## The clock of an idle session -/

/-- A session is idle if it may be, no request is under way, and none has been for long enough. -/
lemma isIdle_iff : s.isIdle now = true ↔ s.idleTimeout.nanos ≠ 0 ∧ s.inFlight = 0 ∧
    s.lastActivity.nanos + s.idleTimeout.nanos ≤ now.nanos := by
  have hsince : s.idleTimeout.nanos ≤ now.nanos - s.lastActivity.nanos ↔
      s.idleTimeout.nanos = 0 ∨ s.lastActivity.nanos + s.idleTimeout.nanos ≤ now.nanos := by
    omega
  simp only [isIdle, Instant.since, Bool.and_eq_true, decide_eq_true_eq, hsince]
  tauto

/-- The reasons for which a session is down. -/
lemma isDown_iff : s.isDown now = true ↔
    s.disposed = true ∨ s.exited = true ∨ s.isIdle now = true := by
  simp only [isDown, Bool.or_eq_true, or_assoc]

/-- A session that is down still is so later, if nothing comes about. -/
lemma isDown_mono (h : s.isDown asked = true) (hle : asked.nanos ≤ later.nanos) :
    s.isDown later = true := by
  rw [isDown_iff] at h ⊢
  refine h.imp_right (Or.imp_right fun hidle => ?_)
  obtain ⟨hmay, hnone, hlong⟩ := isIdle_iff.1 hidle
  exact isIdle_iff.2 ⟨hmay, hnone, Nat.le_trans hlong hle⟩

/-- A session that is down takes no request. -/
lemma begin_of_isDown (h : s.isDown now = true) (task : Task) (params : Json) :
    s.begin task params now = (.error (s.crashed "worker is no longer running"), s) :=
  if_pos h

/-! ## Moments of an idle session -/

/-- The clock of a session has not been put on, and nothing is under way. -/
structure Kept (s s' : Session) : Prop where
  /-- The time without a request is what it was. -/
  timeout : s'.idleTimeout = s.idleTimeout
  /-- No request has begun or ended. -/
  activity : s'.lastActivity = s.lastActivity
  /-- None is under way. -/
  still : s'.inFlight = 0

/-- What touches neither the clock nor the requests. -/
lemma Kept.of_eq {s' : Session} (hnone : s.inFlight = 0) (htimeout : s'.idleTimeout = s.idleTimeout)
    (hactivity : s'.lastActivity = s.lastActivity) (hrequests : s'.requests = s.requests) :
    Kept s s' where
  timeout := htimeout
  activity := hactivity
  still := by
    unfold inFlight at hnone ⊢
    rw [hrequests]
    exact hnone

/-- A request that is over takes no step. -/
lemma stepRequest_of_still (hnone : s.inFlight = 0) (id : Nat) (now : Instant) :
    s.stepRequest id now = none := by
  unfold stepRequest
  cases hr : s.request? id with
  | none => rfl
  | some r =>
    have hover := (inFlight_eq_zero_iff s).1 hnone r (mem_of_request? hr).1
    obtain ⟨result, hphase⟩ := Request.exists_of_isFinished hover
    simp only [hphase]

/-- To turn away from a request that is over leaves the clock as it is. -/
lemma kept_abandon (hnone : s.inFlight = 0) (id : Nat) (now : Instant) :
    Kept s (s.abandon id now) := by
  unfold abandon
  cases hr : s.request? id with
  | none => exact .of_eq hnone rfl rfl rfl
  | some r =>
    have hall := (inFlight_eq_zero_iff s).1 hnone
    dsimp only
    rw [if_pos (hall r (mem_of_request? hr).1)]
    refine ⟨rfl, rfl, (inFlight_eq_zero_iff _).2 fun r' hr' => hall r' ?_⟩
    exact (List.mem_filter.1 hr').1

/-- A reply that is handed out ends no request by itself. -/
lemma kept_dispatch (hnone : s.inFlight = 0) (frame : Json) : Kept s (s.dispatch frame) := by
  unfold dispatch
  split
  · rename_i id reply _
    unfold answer
    split
    · refine ⟨rfl, rfl, (inFlight_eq_zero_iff _).2 fun r hr => ?_⟩
      obtain ⟨r', hr', rfl⟩ := List.mem_map.1 hr
      have hover : r'.isFinished = true := (inFlight_eq_zero_iff s).1 hnone r' hr'
      split
      · exact hover
      · exact hover
    · exact .of_eq hnone rfl rfl rfl
  · exact .of_eq hnone rfl rfl rfl
  · exact .of_eq hnone rfl rfl rfl

/-- What the reader does leaves the clock as it is. -/
lemma kept_reader (hnone : s.inFlight = 0) (now : Instant) :
    Kept s ((s.stepReader now).getD s) := by
  unfold stepReader
  split
  · rename_i decoder frame inbox reason _
    obtain ⟨htimeout, hactivity, hstill⟩ :=
      kept_dispatch (s := { s with reader := .reading decoder inbox reason }) hnone frame
    exact ⟨htimeout, hactivity, hstill⟩
  · exact .of_eq hnone rfl rfl rfl
  · exact .of_eq hnone rfl rfl rfl
  · unfold stepReaderLocking
    split
    · exact .of_eq hnone rfl rfl rfl
    · split <;> exact .of_eq hnone rfl rfl rfl
  · unfold stepAwaiting
    split
    · exact .of_eq hnone rfl rfl rfl
    · split <;> exact .of_eq hnone rfl rfl rfl
  all_goals exact .of_eq hnone rfl rfl rfl

/-- To order the stopping leaves the clock as it is. -/
lemma kept_dispose (hnone : s.inFlight = 0) (watchdog : Watchdog) (now : Instant) :
    Kept s ({ s with watchdog }.dispose now) := by
  unfold dispose
  split <;> exact .of_eq hnone rfl rfl rfl

/-- What the watch does leaves the clock as it is. -/
lemma kept_watchdog (hnone : s.inFlight = 0) (now : Instant) :
    Kept s ((s.stepWatchdog now).getD s) := by
  unfold stepWatchdog
  split
  · exact .of_eq hnone rfl rfl rfl
  · split
    · split
      · exact .of_eq hnone rfl rfl rfl
      · split
        · exact kept_dispose hnone .over now
        · exact .of_eq hnone rfl rfl rfl
    · exact .of_eq hnone rfl rfl rfl

/-- What the stopping does leaves the clock as it is. -/
lemma kept_stopping (hnone : s.inFlight = 0) (now : Instant) :
    Kept s ((s.stepStopping now).getD s) := by
  unfold stepStopping stepDraining stepShutdownSending stepClosing stepLocking enqueue?
  split
  · exact .of_eq hnone rfl rfl rfl
  · -- whatever the phase, only the stopping, the queue, the pending numbers and the charge change
    split
    all_goals repeat' split
    all_goals exact .of_eq hnone rfl rfl rfl

/-- **Nothing puts the clock on** of a session that is down and has no request under way.

**Proof sketch.** Case by case of the event. A request that would begin is refused, and all others
are over: they take no step, and to turn away from one leaves the clock alone. The other tasks never
touch the clock. -/
theorem kept_of_still (hdown : s.isDown now = true) (hnone : s.inFlight = 0) (e : Event) :
    Kept s (s.step now e) := by
  cases e with
  | begin task params =>
    have hrefused : s.step now (.begin task params) = s :=
      congrArg Prod.snd (begin_of_isDown hdown task params)
    rw [hrefused]
    exact .of_eq hnone rfl rfl rfl
  | request id =>
    have hover : s.step now (.request id) = s := by
      show (s.stepRequest id now).getD s = s
      rw [stepRequest_of_still hnone, Option.getD_none]
    rw [hover]
    exact .of_eq hnone rfl rfl rfl
  | abandoned id => exact kept_abandon hnone id now
  | dispose => exact kept_dispose hnone s.watchdog now
  | stopping => exact kept_stopping hnone now
  | watchdog => exact kept_watchdog hnone now
  | writer =>
    show Kept s (s.stepWriter.getD s)
    unfold stepWriter
    split <;> exact .of_eq hnone rfl rfl rfl
  | reader => exact kept_reader hnone now
  | accepted n =>
    show Kept s (s.accept n)
    unfold accept
    split <;> exact .of_eq hnone rfl rfl rfl
  | inputBroken =>
    show Kept s s.breakInput
    unfold breakInput
    split <;> exact .of_eq hnone rfl rfl rfl
  | output bytes =>
    show Kept s (s.receive bytes)
    unfold receive
    split <;> exact .of_eq hnone rfl rfl rfl
  | outputClosed =>
    show Kept s s.closeOutput
    unfold closeOutput
    split <;> exact .of_eq hnone rfl rfl rfl
  | ended ending =>
    show Kept s (if s.ending.isSome then s else { s with ending := some ending })
    split <;> exact .of_eq hnone rfl rfl rfl

/-! ## What is down stays down -/

/-- The order to stop the worker is not taken back, and neither is the end of its output. -/
lemma Move.said {e : Event} {l : Ledger} (h : Move s now e l) :
    (s.disposed = true → l.disposed = true) ∧ (s.exited = true → l.exited = true) := by
  cases h <;> exact ⟨fun hs => by simp [ledger, hs], fun hs => by simp [ledger, hs]⟩

/-- **What is down stays down**, whatever comes about. -/
theorem isDown_step (h : s.isDown now = true) (e : Event) : (s.step now e).isDown now = true := by
  obtain ⟨hdisposed, hexited⟩ := (move_step s now e).said
  rcases isDown_iff.1 h with hs | hs | hs
  · exact isDown_iff.2 (.inl (hdisposed hs))
  · exact isDown_iff.2 (.inr (.inl (hexited hs)))
  · obtain ⟨hmay, hnone, hlong⟩ := isIdle_iff.1 hs
    obtain ⟨htimeout, hactivity, hstill⟩ := kept_of_still h hnone e
    refine isDown_iff.2 (.inr (.inr (isIdle_iff.2 ⟨?_, hstill, ?_⟩)))
    · rw [htimeout]
      exact hmay
    · rw [htimeout, hactivity]
      exact hlong

/-- Throughout a run that goes on from a session that is down, it stays down and no request
begins. -/
theorem isDown_run (h : s.isDown asked = true) {ms : List Moment}
    (horder : InOrder (asked :: (ms.map (·.now) ++ [later]))) :
    (s.run ms).isDown later = true ∧ s.log admitted ms = [] := by
  induction ms generalizing s asked with
  | nil =>
    have hle : asked.nanos ≤ later.nanos := (List.pairwise_cons.1 horder).1 later (by simp)
    exact ⟨isDown_mono h hle, rfl⟩
  | cons m ms ih =>
    obtain ⟨hfirst, hrest⟩ := List.pairwise_cons.1 horder
    have hnow : s.isDown m.now = true := isDown_mono h (hfirst m.now (by simp))
    obtain ⟨hdown, hnone⟩ := ih (isDown_step hnow m.event) hrest
    refine ⟨hdown, ?_⟩
    have hrefused : s.admitted m = [] := by
      unfold admitted
      split
      · rw [begin_of_isDown hnow]
        rfl
      · rfl
    rw [log, hrefused, hnone, List.append_nil]

/-! ## Who orders the stopping -/

/-- When the stopping has been ordered and no request is under way, none is at any later time. -/
lemma finished_run (hdisposed : s.disposed = true)
    (hover : ∀ r ∈ s.requests, r.isFinished = true) (ms : List Moment) :
    ∀ r ∈ (s.run ms).requests, r.isFinished = true := by
  suffices hdrained : (s.run ms).ledger.Drained from hdrained.2
  have hnow : s.ledger.Drained := ⟨hdisposed, hover⟩
  induction ms generalizing s with
  | nil => exact hnow
  | cons m ms ih =>
    have hnext := drained_move hnow (move_step s m.now m.event)
    exact ih hnext.1 hnext.2 hnext

/-- The watch orders the stopping of an idle session only. -/
lemma isIdle_of_watchdog (hbefore : s.disposed = false)
    (hafter : (s.step now .watchdog).disposed = true) : s.isIdle now = true := by
  dsimp only [step] at hafter
  unfold stepWatchdog at hafter
  split at hafter
  · cases hbefore.symm.trans hafter
  · split at hafter
    · split at hafter
      · cases hbefore.symm.trans hafter
      · split at hafter
        · assumption
        · cases hbefore.symm.trans hafter
    · cases hbefore.symm.trans hafter

/-- A request orders the stopping only when it was not answered in time. -/
lemma timedOut_of_disposed {r : Request} (hr : s.request? r.id = some r)
    (hbefore : s.disposed = false) (hafter : (s.step now (.request r.id)).disposed = true) :
    r.phase = .withdrawing .timedOut := by
  simp only [step, stepRequest, hr] at hafter
  cases hphase : r.phase with
  | withdrawing cause =>
    cases cause with
    | timedOut => rfl
    | _ =>
      rw [hphase] at hafter
      cases hbefore.symm.trans hafter
  | checking =>
    simp only [hphase, stepChecking] at hafter
    split at hafter <;> cases hbefore.symm.trans hafter
  | sending =>
    simp only [hphase, stepSending, enqueue?] at hafter
    split at hafter
    · cases hbefore.symm.trans hafter
    · split at hafter <;> cases hbefore.symm.trans hafter
  | waiting deadline =>
    simp only [hphase, stepWaiting] at hafter
    split at hafter
    · cases hbefore.symm.trans hafter
    · split at hafter
      · cases hbefore.symm.trans hafter
      · split at hafter <;> cases hbefore.symm.trans hafter
  | _ =>
    rw [hphase] at hafter
    cases hbefore.symm.trans hafter

/-- **The stopping is ordered** by a caller, by a request that was not answered in time, or by the
watch, and by that only when the session is idle. -/
theorem ordered_cases {e : Event} (hbefore : s.disposed = false)
    (hafter : (s.step now e).disposed = true) :
    e = .dispose ∨
      (∃ r, e = .request r.id ∧ s.request? r.id = some r ∧ r.phase = .withdrawing .timedOut) ∨
      e = .watchdog ∧ s.isIdle now = true := by
  have hmove := move_step s now e
  have hordered : (s.step now e).ledger.disposed = true := hafter
  generalize (s.step now e).ledger = l at hmove hordered
  cases hmove with
  | stoppedBy r hr _ _ _ => exact .inr (.inl ⟨r, rfl, hr, timedOut_of_disposed hr hbefore hafter⟩)
  | disposed _ he _ _ =>
    rcases he with rfl | rfl
    · exact .inl rfl
    · exact .inr (.inr ⟨rfl, isIdle_of_watchdog hbefore hafter⟩)
  | _ => cases hbefore.symm.trans hordered

/-- **A session that is down is down for good.** In every run on a clock that never goes back,
whatever the time without a request after which the session ends and in whatever order everything
goes on:

* while a request is under way, only the order to stop the worker or the end of its output makes the
  session down, never that it is idle;
* the worker is ordered to stop by a caller, by a request that was not answered in time, or by the
  watch; by the watch only when the time without a request is limited and has passed since the last
  activity, and no request is under way, neither then nor at any later time;
* once the session has been found down, it is down whenever somebody asks later, no request begins
  in the meantime, and one that would begin then is refused and changes nothing. -/
theorem down_for_good (root : Path) (requestTimeout idleTimeout : Span) (began : Instant)
    (before after : List Moment) (asked later : Instant)
    (horder : InOrder
      (began :: before.map (·.now) ++ asked :: (after.map (·.now) ++ [later]))) :
    let s := (start root requestTimeout idleTimeout began).run before
    ((∃ r ∈ s.requests, r.isFinished = false) → s.isDown asked = (s.disposed || s.exited)) ∧
      (∀ e, s.disposed = false → (s.step asked e).disposed = true →
        e = .dispose ∨
        (∃ r, e = .request r.id ∧ s.request? r.id = some r ∧ r.phase = .withdrawing .timedOut) ∨
        e = .watchdog ∧ s.idleTimeout.nanos ≠ 0 ∧
          s.lastActivity.nanos + s.idleTimeout.nanos ≤ asked.nanos ∧
          (∀ r ∈ s.requests, r.isFinished = true) ∧
          ∀ r ∈ ((s.step asked e).run after).requests, r.isFinished = true) ∧
      (s.isDown asked = true →
        (s.run after).isDown later = true ∧ s.log admitted after = [] ∧
          ∀ task params, (s.run after).begin task params later =
            (.error (.crashed root "worker is no longer running"), s.run after)) := by
  intro s
  refine ⟨?_, ?_, ?_⟩
  · rintro ⟨r, hr, hunder⟩
    have hbusy : s.isIdle asked = false := by
      rw [Bool.eq_false_iff]
      intro hidle
      obtain ⟨-, hnone, -⟩ := isIdle_iff.1 hidle
      have hover := (inFlight_eq_zero_iff s).1 hnone r hr
      rw [hunder] at hover
      cases hover
    rw [isDown, hbusy, Bool.or_false]
  · intro e hbefore hafter
    refine (ordered_cases hbefore hafter).imp_right (Or.imp_right ?_)
    rintro ⟨rfl, hidle⟩
    obtain ⟨hmay, hnone, hlong⟩ := isIdle_iff.1 hidle
    have hdown : s.isDown asked = true := isDown_iff.2 (.inr (.inr hidle))
    have hstill := (kept_of_still hdown hnone .watchdog).still
    exact ⟨rfl, hmay, hlong, (inFlight_eq_zero_iff s).1 hnone,
      finished_run hafter ((inFlight_eq_zero_iff _).1 hstill) after⟩
  · intro hdown
    have hafter : InOrder (asked :: (after.map (·.now) ++ [later])) :=
      (List.pairwise_append.1 horder).2.1
    obtain ⟨hstill, hnone⟩ := isDown_run hdown hafter
    refine ⟨hstill, hnone, fun task params => ?_⟩
    have hroot : (s.run after).root = root := by
      rw [(settings_run s after).1]
      exact (settings_run _ before).1
    rw [begin_of_isDown hstill, crashed, hroot]

/-- A request begins and is answered. -/
def pause : List Moment :=
  atOnce [.begin .lint .null, .request 1, .request 1, .request 1, .writer,
    .output (Text.encode "Content-Length:8\r\n\r\n\x7b\"id\":1\x7d"), .reader, .request 1]

/-- What comes too late: another request, and the watch. -/
def lateComers : List Moment :=
  [⟨⟨6 * Span.second⟩, .begin .resolve .null⟩, ⟨⟨6 * Span.second⟩, .watchdog⟩,
    ⟨⟨7 * Span.second⟩, .stopping⟩]

/-- A session that was idle at five seconds takes no request any more; if the watch looks then, it
orders the stopping, and no request is under way later. -/
theorem down_for_good_idle :
    let s := (start ⟨"/root"⟩ (.ofSeconds 60) (.ofSeconds 5) ⟨0⟩).run pause
    InOrder (⟨0⟩ :: pause.map (·.now) ++
        ⟨5 * Span.second⟩ :: (lateComers.map (·.now) ++ [⟨8 * Span.second⟩])) ∧
      s.disposed = false ∧ s.exited = false ∧ s.isDown ⟨4 * Span.second⟩ = false ∧
      (s.step ⟨4 * Span.second⟩ .watchdog).disposed = false ∧
      s.isDown ⟨5 * Span.second⟩ = true ∧
      (s.step ⟨5 * Span.second⟩ .watchdog).disposed = true ∧
      (∀ r ∈ ((s.step ⟨5 * Span.second⟩ .watchdog).run lateComers).requests,
        r.isFinished = true) ∧
      (s.run lateComers).isDown ⟨8 * Span.second⟩ = true ∧ s.log admitted lateComers = [] := by
  intro s
  have horder : InOrder (⟨0⟩ :: pause.map (·.now) ++
      ⟨5 * Span.second⟩ :: (lateComers.map (·.now) ++ [⟨8 * Span.second⟩])) := by decide +kernel
  obtain ⟨hdisposed, hexited, hnotYet, hwaits, hdown, hordered⟩ :
      s.disposed = false ∧ s.exited = false ∧ s.isDown ⟨4 * Span.second⟩ = false ∧
      (s.step ⟨4 * Span.second⟩ .watchdog).disposed = false ∧
      s.isDown ⟨5 * Span.second⟩ = true ∧
      (s.step ⟨5 * Span.second⟩ .watchdog).disposed = true := by decide +kernel
  obtain ⟨-, hwatch, hgood⟩ := down_for_good ⟨"/root"⟩ (.ofSeconds 60) (.ofSeconds 5) ⟨0⟩ pause
    lateComers ⟨5 * Span.second⟩ ⟨8 * Span.second⟩ horder
  obtain ⟨hstill, hnone, -⟩ := hgood hdown
  have hover : ∀ r ∈ ((s.step ⟨5 * Span.second⟩ .watchdog).run lateComers).requests,
      r.isFinished = true := by
    rcases hwatch .watchdog hdisposed hordered with h | ⟨r, h, -⟩ | ⟨-, -, -, -, hover⟩
    · cases h
    · cases h
    · exact hover
  exact ⟨horder, hdisposed, hexited, hnotYet, hwaits, hdown, hordered, hover, hstill, hnone⟩

end LintPool.Session
