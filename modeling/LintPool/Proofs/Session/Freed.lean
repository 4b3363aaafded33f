import LintPool.Proofs.Session.Blocked
import LintPool.Proofs.Session.Replies

set_option autoImplicit false

/-!
# What goes on without the worker

Whatever the worker program does, or does not do, most of a session goes on: a request or a stopping
that waits for something of the worker does so for a time, and a stopping that has given its last
order kills a program that does not end. What is left is a request or a stopping that waits for room
among the orders, and that goes on exactly if the session is not choked.

## Main definitions

* `LintPool.Piped.RequestGoesOn`, `LintPool.Piped.StoppingGoesOn` — the next step can be reached
  without the worker program.
* `LintPool.Piped.Ends` — so can the end of the worker program, or its killing.

## Main results

* `LintPool.Piped.ends_of_clears` — a stopping that can give all its orders gets to the killing.
* `LintPool.Piped.reaches_room` — a session that is not choked gets room for an order.
* `LintPool.Piped.goes_on_unless_choked` — what goes on without the worker program, and what does
  not.
* `LintPool.Piped.siege_blocks` — a worker program that takes no input blocks a request and the
  stopping, and lives on.
-/

namespace LintPool

namespace Session

variable {s t : Session} {now later : Instant} {w : Works} {room : Nat}

/-! ## Reaching -/

/-- What can be reached from what is reached is reached. -/
lemma Reaches.trans {u : Session} {last : Instant} (h : Reaches s now t later)
    (h' : Reaches t later u last) : Reaches s now u last := by
  induction h' with
  | here => exact h
  | waited _ hle ih => exact ih.waited hle
  | stepped _ e he ih => exact ih.stepped e he

/-- A step that is taken by itself, now. -/
lemma Reaches.step (now : Instant) {e : Event} (he : s.ByItself e) :
    Reaches s now (s.step now e) now :=
  Reaches.here.stepped e he

/-- The first reading of the clock at which a deadline has passed. -/
def atLast (now deadline : Instant) : Instant := ⟨max now.nanos deadline.nanos⟩

/-- Every deadline passes. -/
lemma reaches_atLast (s : Session) (now deadline : Instant) :
    Reaches s now s (atLast now deadline) :=
  Reaches.here.waited (Nat.le_max_left _ _)

/-- At last a deadline has passed. -/
lemma le_atLast (now deadline : Instant) : deadline.nanos ≤ (atLast now deadline).nanos :=
  Nat.le_max_right _ _

/-! ## Room among the orders -/

/-- An idle writer makes room, and leaves the stopping what it needs. -/
lemma room_of_idle (hw : s.works.Steady) (hwriter : s.writer = .idle) (now : Instant) :
    ∃ t, Reaches s now t now ∧ t.stopping = s.stopping ∧
      (t.writerOver = true ∨ t.queue.length < queueCapacity) ∧
      ∀ room, s.works.Clears room → t.works.Clears room := by
  have hroom : s.queue.length ≤ queueCapacity := hw.room
  cases hqueue : s.queue with
  | nil => exact ⟨s, .here, rfl, .inr (by rw [hqueue]; decide), fun _ h => h⟩
  | cons o rest =>
    -- The writer takes the next order.
    rw [hqueue] at hroom
    refine ⟨s.step now .writer, .step now trivial, ?_⟩
    cases o with
    | send frame =>
      simp only [Session.step, stepWriter, hwriter, hqueue]
      refine ⟨rfl, .inr hroom, fun room hclears => .inr ?_⟩
      have hclears := hclears.resolve_left (by simp [works, hwriter])
      exact (load_taken hwriter hqueue room).trans_le hclears
    | close =>
      simp only [Session.step, stepWriter, hwriter, hqueue]
      exact ⟨rfl, .inl rfl, fun _ _ => .inl rfl⟩

/-- A writer that does not wait for the worker's input makes room. -/
lemma room_of_not_held (hw : s.works.Steady) (hheld : s.writer.isHeld = false) (now : Instant) :
    ∃ t, Reaches s now t now ∧ t.stopping = s.stopping ∧
      (t.writerOver = true ∨ t.queue.length < queueCapacity) ∧
      ∀ room, s.works.Clears room → t.works.Clears room := by
  cases hwriter : s.writer with
  | idle => exact room_of_idle hw hwriter now
  | writing rest =>
    cases rest with
    | nil =>
      have hstep : s.step now .writer = { s with writer := .idle } := by
        simp only [Session.step, stepWriter, hwriter]
        rfl
      have hreach : Reaches s now { s with writer := .idle } now := hstep ▸ .step now trivial
      obtain ⟨t, ht, hstopping, hgoal, hclears⟩ :=
        room_of_idle (s := { s with writer := .idle }) ⟨hw.room, hw.closed, hw.numbered, hw.awaited,
          hw.reaped, hw.ended⟩ rfl now
      refine ⟨t, hreach.trans ht, hstopping, hgoal, fun room h => hclears room (.inr ?_)⟩
      exact (load_written hwriter room).trans_le (h.resolve_left (by simp [works, hwriter]))
    | cons b rest =>
      rw [hwriter] at hheld
      cases hheld
  | _ => exact ⟨s, .here, rfl, .inl (by rw [writerOver, hwriter]), fun _ h => h⟩

/-- The input of a program that has ended breaks, so that there is room. -/
lemma room_of_ended (hw : s.works.Steady) (hending : s.ending.isSome = true) (now : Instant) :
    ∃ t, Reaches s now t now ∧ (t.writerOver = true ∨ t.queue.length < queueCapacity) := by
  cases hheld : s.writer.isHeld with
  | false =>
    obtain ⟨t, hreach, -, hroom, -⟩ := room_of_not_held hw hheld now
    exact ⟨t, hreach, hroom⟩
  | true =>
    refine ⟨s.step now .inputBroken, .step now hending, .inl ?_⟩
    obtain ⟨b, rest, hwriter⟩ := Writer.exists_of_isHeld hheld
    simp only [Session.step, breakInput, hwriter]
    rfl

/-- A worker program that is killed ends. -/
lemma ended_of_kills (hkills : s.killsProgram = true) (now : Instant) :
    ∃ t, Reaches s now t now ∧ t.stopping = s.stopping ∧ t.ending.isSome = true := by
  refine ⟨s.step now (.ended (.killed 9)), .step now hkills, ?_⟩
  simp only [Session.step]
  split
  · exact ⟨rfl, ‹_›⟩
  · exact ⟨rfl, rfl⟩

/-! ## The end of the reading -/

/-- A session can come to where it is known that the worker's output has ended, without its doing,
and with the orders, the writer and the stopping as they are. -/
def Exits (s : Session) (now : Instant) : Prop :=
  ∃ t later, Reaches s now t later ∧ t.exited = true ∧ t.queue = s.queue ∧ t.writer = s.writer ∧
    t.works.phase = s.works.phase

/-- A step that leaves the orders, the writer and the stopping as they are may come before. -/
lemma Exits.after {u : Session} (h : Exits u later) (hreach : Reaches s now u later)
    (hqueue : u.queue = s.queue) (hwriter : u.writer = s.writer)
    (hphase : u.works.phase = s.works.phase) : Exits s now := by
  obtain ⟨t, last, hlast, hexited, hqueue', hwriter', hphase'⟩ := h
  exact ⟨t, last, hreach.trans hlast, hexited, hqueue'.trans hqueue, hwriter'.trans hwriter,
    hphase'.trans hphase⟩

/-- When the reader has noted why the session is over, it says so. -/
lemma exits_of_noting {reason : String} (hreader : s.reader = .noting reason) (now : Instant) :
    Exits s now := by
  have hreach : Reaches s now (s.step now .reader) now := .step now trivial
  refine ⟨(s.step now .reader).step now .reader, now, hreach.stepped .reader trivial, ?_⟩
  simp only [Session.step, stepReader, hreader]
  exact ⟨rfl, rfl, rfl, rfl⟩

/-- The reader waits for the worker program to end for a time only. -/
lemma exits_of_awaiting {reason : String} {deadline : Instant}
    (hreader : s.reader = .awaiting reason deadline) (now : Instant) : Exits s now := by
  have hreach : Reaches s now (s.step (atLast now deadline) .reader) (atLast now deadline) :=
    (reaches_atLast s now deadline).stepped .reader trivial
  cases hending : s.ending with
  | some ending =>
    simp only [Session.step, stepReader, hreader, stepAwaiting, hending, Option.getD_some] at hreach
    exact (exits_of_noting rfl _).after hreach rfl rfl rfl
  | none =>
    simp only [Session.step, stepReader, hreader, stepAwaiting, hending,
      if_pos (le_atLast now deadline), Option.getD_some] at hreach
    exact (exits_of_noting rfl _).after hreach rfl rfl rfl

/-- The reader can take charge of the worker program as long as the stopping has not. -/
lemma exits_of_locking (hw : s.works.Steady)
    (hearly : ∀ phase, s.works.phase = some phase → phase.rank < 7) {reason : String}
    (hreader : s.reader = .locking reason) (now : Instant) : Exits s now := by
  have hkeeper : s.keeper = none := by
    cases hkeeper : s.keeper with
    | none => rfl
    | some keeper =>
      cases keeper with
      | reader =>
        have hawaiting := hw.awaited hkeeper
        rw [works, hreader] at hawaiting
        cases hawaiting
      | stopping =>
        obtain ⟨phase, hphase, hrank⟩ := hw.reaped hkeeper
        exact absurd (hearly phase hphase) (Nat.not_lt.2 hrank)
  have hreach : Reaches s now (s.step now .reader) now := .step now trivial
  by_cases htaken : s.taken = true
  · simp only [Session.step, stepReader, hreader, stepReaderLocking, hkeeper, if_pos htaken,
      Option.getD_some] at hreach
    exact (exits_of_noting rfl _).after hreach rfl rfl rfl
  · simp only [Session.step, stepReader, hreader, stepReaderLocking, hkeeper, if_neg htaken,
      Option.getD_some] at hreach
    exact (exits_of_awaiting rfl _).after hreach rfl rfl rfl

/-- The reader looks at the frames that it has. -/
lemma exits_of_reading (hs : s.ledger.Sound) (hw : s.works.Steady)
    (hearly : ∀ phase, s.works.phase = some phase → phase.rank < 7) {decoder : FrameDecoder}
    {inbox : List Json} {reason : String}
    (hreader : s.reader = .reading decoder inbox (some reason)) (now : Instant) : Exits s now := by
  have hreach : Reaches s now (s.step now .reader) now := .step now trivial
  have hs' := hs.move (move_step s now .reader)
  have hw' := steady_step hs hw now .reader
  induction inbox generalizing s with
  | nil =>
    simp only [Session.step, stepReader, hreader, Option.getD_some] at hreach hw'
    exact (exits_of_locking hw' hearly rfl now).after hreach rfl rfl rfl
  | cons frame inbox ih =>
    have hstep : (s.step now .reader).works =
        { s with reader := .reading decoder inbox (some reason) }.works := by
      simp only [Session.step, stepReader, hreader, Option.getD_some, works_dispatch]
    have hqueue : (s.step now .reader).queue = s.queue := congrArg Works.queue hstep
    have hwriter : (s.step now .reader).writer = s.writer := congrArg Works.writer hstep
    have hphase : (s.step now .reader).works.phase = s.works.phase := by rw [hstep]; rfl
    refine (ih hs' hw' (by rwa [hphase]) (congrArg Works.reader hstep) (.step now trivial) ?_
      ?_).after hreach hqueue hwriter hphase
    · exact hs'.move (move_step _ now .reader)
    · exact steady_step hs' hw' now .reader

/-- **A reader that waits for no more output** comes to say that the session is over, unless the
stopping has taken charge of the worker program. -/
lemma exits_of_not_hearing (hs : s.ledger.Sound) (hw : s.works.Steady)
    (hearly : ∀ phase, s.works.phase = some phase → phase.rank < 7)
    (hhearing : s.reader.isHearing = false) (now : Instant) : Exits s now := by
  have hover (hstage : s.reader.stage = .clearing ∨ s.reader.stage = .over) : Exits s now :=
    ⟨s, now, .here, hs.exited.2 hstage, rfl, rfl, rfl⟩
  cases hreader : s.reader with
  | reading decoder inbox reason =>
    cases reason with
    | none =>
      rw [hreader] at hhearing
      cases hhearing
    | some reason => exact exits_of_reading hs hw hearly hreader now
  | locking reason => exact exits_of_locking hw hearly hreader now
  | awaiting reason deadline => exact exits_of_awaiting hreader now
  | noting reason => exact exits_of_noting hreader now
  | exiting =>
    refine ⟨s.step now .reader, now, .step now trivial, ?_⟩
    simp only [Session.step, stepReader, hreader]
    exact ⟨rfl, rfl, rfl, rfl⟩
  | clearing => exact hover (by rw [hreader]; exact .inl rfl)
  | _ => exact hover (by rw [hreader]; exact .inr rfl)

/-! ## The stopping gets to the killing -/

/-- A reader that has waited long enough lets go of the worker program. -/
lemma letsGo_of_awaiting {reason : String} {deadline : Instant}
    (hreader : s.reader = .awaiting reason deadline) (hdue : deadline.nanos ≤ now.nanos) :
    (s.step now .reader).stopping = s.stopping ∧ (s.step now .reader).keeper = none := by
  cases hending : s.ending <;>
    simp [Session.step, stepReader, hreader, stepAwaiting, hending, hdue]

/-- **A stopping that gives no order, or has room for it**, comes to its next step: all else that it
waits for, it waits for a time. -/
lemma stopping_ready (hw : s.works.Steady) {t : Stopping} (ht : s.stopping = some t)
    (hover : t.phase ≠ .over) (hkilling : t.phase ≠ .killing)
    (hroom : t.phase = .sending ∨ t.phase = .closing →
      s.writerOver = true ∨ s.queue.length < queueCapacity) (now : Instant) :
    ∃ u later, Reaches s now u later ∧ u.stopping = some t ∧ (t.phase ≠ .locking → u = s) ∧
      (u.stepStopping later).isSome = true := by
  obtain ⟨phase, number, answered⟩ := t
  have hnow (h : (s.stepStopping now).isSome = true) :
      ∃ u later, Reaches s now u later ∧ u.stopping = some ⟨phase, number, answered⟩ ∧
        (phase ≠ .locking → u = s) ∧ (u.stepStopping later).isSome = true :=
    ⟨s, now, .here, ht, fun _ => rfl, h⟩
  have hlater (deadline : Instant) (h : (s.stepStopping (atLast now deadline)).isSome = true) :
      ∃ u later, Reaches s now u later ∧ u.stopping = some ⟨phase, number, answered⟩ ∧
        (phase ≠ .locking → u = s) ∧ (u.stepStopping later).isSome = true :=
    ⟨s, _, reaches_atLast s now deadline, ht, fun _ => rfl, h⟩
  cases phase with
  | draining deadline =>
    refine hlater deadline ?_
    simp only [stepStopping, ht, stepDraining, le_atLast, decide_true, Bool.or_true, if_true]
    split <;> rfl
  | registering => exact hnow (by cases number <;> simp [stepStopping, ht])
  | sending =>
    cases number with
    | none => exact hnow (by simp [stepStopping, ht])
    | some id =>
      refine hnow ?_
      simp only [stepStopping, ht, stepShutdownSending, enqueue?]
      rcases hroom (.inl rfl) with hclosed | hfree
      · rw [if_pos hclosed]
        rfl
      · rw [if_pos hfree]
        split <;> rfl
  | waiting deadline =>
    refine hlater deadline ?_
    cases number <;> simp [stepStopping, ht, le_atLast]
  | withdrawing => exact hnow (by cases number <;> simp [stepStopping, ht])
  | closing =>
    refine hnow ?_
    simp only [stepStopping, ht, stepClosing, enqueue?]
    rcases hroom (.inr rfl) with hclosed | hfree
    · rw [if_pos hclosed]
      rfl
    · rw [if_pos hfree]
      split <;> rfl
  | locking =>
    cases hkeeper : s.keeper with
    | none => exact hnow (by simp [stepStopping, ht, stepLocking, hkeeper])
    | some keeper =>
      cases keeper with
      | stopping =>
        obtain ⟨phase, hphase, hrank⟩ := hw.reaped hkeeper
        cases (works_phase ht).symm.trans hphase
        exact absurd hrank (by simp [StopPhase.rank])
      | reader =>
        -- The reader lets go of the program when it has waited long enough.
        obtain ⟨reason, deadline, hreader⟩ := Reader.exists_of_isAwaiting (hw.awaited hkeeper)
        obtain ⟨hstopping, hfree⟩ := letsGo_of_awaiting hreader (le_atLast now deadline)
        refine ⟨_, _, (reaches_atLast s now deadline).stepped .reader trivial, hstopping.trans ht,
          fun hne => absurd rfl hne, ?_⟩
        rw [stepStopping, hstopping, ht]
        simp only [stepLocking, hfree]
        rfl
  | reaping deadline =>
    refine hlater deadline ?_
    simp only [stepStopping, ht, le_atLast]
    split <;> rfl
  | killing => exact absurd rfl hkilling
  | _ => exact absurd rfl hover

/-- A stopping that can give all its orders comes to its next step, and still can. -/
lemma onward (hs : s.ledger.Sound) (hw : s.works.Steady) {t : Stopping} (ht : s.stopping = some t)
    (hover : t.phase ≠ .over) (hkilling : t.phase ≠ .killing)
    (hroom : t.phase = .sending ∨ t.phase = .closing →
      s.writerOver = true ∨ s.queue.length < queueCapacity)
    (hheard : ∀ deadline, t.phase = .draining deadline →
      s.reader.isHearing = true ∨ s.exited = true)
    (hclears : s.works.Clears room ∨ 5 ≤ t.phase.rank) (now : Instant) :
    ∃ u later t', Reaches s now u later ∧ u.works.Clears room ∧ u.stopping = some t' ∧
      t.phase.rank < t'.phase.rank := by
  obtain ⟨u, later, hreach, hstopping, hsame, hsome⟩ :=
    stopping_ready hw ht hover hkilling hroom now
  obtain ⟨v, hv⟩ := Option.isSome_iff_exists.1 hsome
  have hstep : u.step later .stopping = v := by rw [Session.step, hv]; rfl
  have hreach' : Reaches s now v later := hstep ▸ hreach.stepped .stopping trivial
  have hact := stopAct_step hstopping hv
  obtain ⟨phase, hphase, hlt⟩ := hact.rank_lt
  obtain ⟨t', ht', rfl⟩ := exists_stopping hphase
  refine ⟨v, later, t', hreach', ?_, ht', hlt⟩
  by_cases hlate : 6 ≤ t'.phase.rank
  · exact (hreach'.steady hs hw).2.clears (Works.ordersLeft_eq_zero hphase hlate) room
  · -- A stopping that has an order left has not taken charge of the program yet.
    have hnot : t.phase ≠ .locking := by
      intro hlocking
      rw [hlocking] at hlt
      exact hlate (Nat.le_of_lt hlt)
    obtain rfl := hsame hnot
    have hclears : u.works.Clears room := hclears.resolve_right (by omega)
    by_cases hclosed : u.writer = .over
    · exact .inl (hact.writer_eq.trans hclosed)
    · have hload := (load_stopAct hs hw hclosed ht hact room).2 hheard
      exact .inr (Nat.le_trans hload (hclears.resolve_left hclosed))

/-- A stopping that waits for requests can give all its orders at the end of the wait too: where the
reader waits for no more output, it says first that the session is over. -/
lemma onward_of_draining (hs : s.ledger.Sound) (hw : s.works.Steady) {t : Stopping}
    (ht : s.stopping = some t) {deadline : Instant} (hphase : t.phase = .draining deadline)
    (hclears : s.works.Clears room) (now : Instant) :
    ∃ u later t', Reaches s now u later ∧ u.works.Clears room ∧ u.stopping = some t' ∧
      t.phase.rank < t'.phase.rank := by
  have hworks := works_phase ht
  by_cases hheard : s.reader.isHearing = true ∨ s.exited = true
  · exact onward hs hw ht (by simp [hphase]) (by simp [hphase]) (by simp [hphase])
      (fun _ _ => hheard) (.inl hclears) now
  · have hhearing := Bool.eq_false_iff.2 fun h => hheard (.inl h)
    have hearly (phase : StopPhase) (h : s.works.phase = some phase) : phase.rank < 7 := by
      cases hworks.symm.trans h
      rw [hphase]
      simp [StopPhase.rank]
    obtain ⟨u, later, hreach, hexited, hqueue, hwriter, hsame⟩ :=
      exits_of_not_hearing hs hw hearly hhearing now
    obtain ⟨hs', hw'⟩ := hreach.steady hs hw
    obtain ⟨t', ht', hphase'⟩ := exists_stopping (hsame.trans hworks)
    have hload : u.works.load room = s.works.load room :=
      Works.load_congr hqueue hwriter hsame ((isHearing_of_exited hs' hexited).trans hhearing.symm)
    have hclears' : u.works.Clears room := by
      rw [Works.Clears, hload]
      exact hclears.imp_left hwriter.trans
    obtain ⟨v, last, t'', hlast, hv, ht'', hlt⟩ := onward hs' hw' ht' (by simp [hphase', hphase])
      (by simp [hphase', hphase]) (by simp [hphase', hphase]) (fun _ _ => .inr hexited)
      (.inl hclears') later
    exact ⟨v, last, t'', hreach.trans hlast, hv, ht'', hphase' ▸ hlt⟩

end Session

namespace Piped

variable {p q : Piped} {now later : Instant}

/-- The request of a number can come to its next step without the worker program. -/
def RequestGoesOn (p : Piped) (now : Instant) (id : Nat) : Prop :=
  ∃ q later, p.Reaches now q later ∧ (q.session.stepRequest id later).isSome = true

/-- The stopping can come to its next step without the worker program. -/
def StoppingGoesOn (p : Piped) (now : Instant) : Prop :=
  ∃ q later, p.Reaches now q later ∧ (q.session.stepStopping later).isSome = true

/-- The worker program has ended, or a session can come to where it is killed, without its doing. -/
def Ends (p : Piped) (now : Instant) : Prop :=
  ∃ q later, p.Reaches now q later ∧
    (q.session.ending.isSome = true ∨ q.session.killsProgram = true)

/-! ## Until the next step -/

/-- A request stays where it is until it takes a step. -/
lemma turn_or_same (h : p.Reaches now q later) {r : Request}
    (hr : p.session.request? r.id = some r) :
    (∃ u time r', p.Reaches now u time ∧ u.session.request? r.id = some r' ∧ r'.phase = r.phase ∧
      (u.session.stepRequest r.id time).isSome = true) ∨
    ∃ r', q.session.request? r.id = some r' ∧ r'.phase = r.phase := by
  induction h with
  | here => exact .inr ⟨r, hr, rfl⟩
  | waited _ _ ih => exact ih
  | stepped h e he ih =>
    rename_i u time
    rcases ih with hturn | ⟨r', hr', hphase⟩
    · exact .inl hturn
    · have hid : r'.id = r.id := (Session.mem_of_request? hr').2
      rw [← hid] at hr' ⊢
      by_cases hown : u.limited e = .request r'.id
      · cases hstep : u.session.stepRequest r'.id time with
        | none =>
          refine .inr ⟨r', ?_, hphase⟩
          rw [step, hown, Session.step, hstep]
          exact hr'
        | some _ => exact .inl ⟨u, time, r', h, hr', hphase, by rw [hstep]; rfl⟩
      · rw [← hphase]
        refine .inr ((Session.phase_kept hr' hown time).resolve_left fun hgivenUp => ?_)
        exact he.limited_ne_abandoned _ hgivenUp

/-- The stopping stays where it is until it takes a step. -/
lemma stoppingGoesOn_or_same (h : p.Reaches now q later) (hp : p.Sound) {phase : StopPhase}
    (hphase : p.session.works.phase = some phase) :
    p.StoppingGoesOn now ∨ q.session.works.phase = some phase := by
  induction h with
  | here => exact .inr hphase
  | waited _ _ ih => exact ih
  | stepped h e he ih =>
    rename_i u time
    rcases ih with hgoes | hsame
    · exact .inl hgoes
    · by_cases hown : u.limited e = .stopping
      · cases hstep : u.session.stepStopping time with
        | none =>
          refine .inr ?_
          rw [step, hown, Session.step, hstep]
          exact hsame
        | some _ => exact .inl ⟨u, time, h, by rw [hstep]; rfl⟩
      · have hkept := (Session.act_step u.session time (u.limited e)).kept_or_stopped
          (h.sound hp).ledger hsame
        exact .inr (hkept.resolve_right fun h => hown h.1)

/-! ## Room in the pipe -/

/-- A frame for which there is room in the pipe goes there, and then the writer makes room among the
orders. -/
lemma room_of_fits (hp : p.Sound) (hfits : p.session.writer.unwritten ≤ p.room) (now : Instant) :
    ∃ q, p.Reaches now q now ∧ q.session.stopping = p.session.stopping ∧
      (q.session.writerOver = true ∨ q.session.queue.length < queueCapacity) ∧
      (p.session.works.Clears p.room → q.session.works.Clears q.room) := by
  let q := p.step now (.session (.accepted p.session.writer.unwritten))
  have hreach : p.Reaches now q now := Reaches.here.stepped (.accepted _) trivial
  -- Nothing is left of the frame.
  have hheld : q.session.writer.isHeld = false := by
    rw [Bool.eq_false_iff, ne_eq, Writer.isHeld_iff, p.unwritten_accepted, taken,
      Nat.min_eq_right hfits, Nat.min_self, Nat.sub_self]
    exact Nat.lt_irrefl 0
  obtain ⟨t, ht, hstopping, hroom, hclears⟩ :=
    Session.room_of_not_held (hp.step now _).works hheld now
  obtain ⟨hload, hover⟩ := p.load_accepted now p.session.writer.unwritten
  refine ⟨{ q with session := t }, hreach.trans (.of_session ht),
    hstopping.trans (Session.stopping_accept _ _), hroom, fun h => hclears q.room ?_⟩
  exact h.imp hover.2 fun hfew => hload ▸ hfew

/-! ## The stopping gets to the killing -/

/-- What the stopping comes to by itself it comes to with the pipe. -/
lemma onward_of_session {t : Stopping}
    (h : ∃ u later t', p.session.Reaches now u later ∧ u.works.Clears p.room ∧
      u.stopping = some t' ∧ t.phase.rank < t'.phase.rank) :
    ∃ q later t', p.Reaches now q later ∧ q.session.works.Clears q.room ∧
      q.session.stopping = some t' ∧ t.phase.rank < t'.phase.rank := by
  obtain ⟨u, later, t', hreach, hclears, ht', hlt⟩ := h
  exact ⟨{ p with session := u }, later, t', .of_session hreach, hclears, ht', hlt⟩

/-- A stopping that is about to give an order, and can give all its orders, gets the room. -/
lemma onward_of_giving (hp : p.Sound) {t : Stopping} (ht : p.session.stopping = some t)
    (hphase : t.phase = .sending ∨ t.phase = .closing) (hclears : p.session.works.Clears p.room)
    (now : Instant) :
    ∃ q later t', p.Reaches now q later ∧ q.session.works.Clears q.room ∧
      q.session.stopping = some t' ∧ t.phase.rank < t'.phase.rank := by
  have hgives {q : Piped} (hq : q.Sound) (hstopping : q.session.stopping = some t)
      (hroom : q.session.writerOver = true ∨ q.session.queue.length < queueCapacity)
      (hclears : q.session.works.Clears q.room) :=
    onward_of_session (Session.onward hq.ledger hq.works hstopping
      (by rcases hphase with h | h <;> simp [h]) (by rcases hphase with h | h <;> simp [h])
      (fun _ => hroom) (by rcases hphase with h | h <;> simp [h]) (.inl hclears) now)
  by_cases hroom : p.session.writerOver = true ∨ p.session.queue.length < queueCapacity
  · exact hgives hp ht hroom hclears
  · -- If there were no room for the frame at hand, all orders would be left over.
    obtain ⟨hopen, hfull⟩ := not_or.1 hroom
    have hfits : p.session.writer.unwritten ≤ p.room := by
      by_contra hlt
      have hleft : 1 ≤ p.session.works.ordersLeft := by
        have hworks := Session.works_phase ht
        rcases hphase with h | h <;> simp [Works.ordersLeft, hworks, h]
      have hfew := hclears.resolve_left fun h => hopen ((Session.writerOver_iff _).2 h)
      have hall : Works.leftOver p.session.queue p.room p.session.writer.unwritten =
          p.session.queue.length + 1 := Works.leftOver_of_lt (Nat.not_le.1 hlt) _
      change Works.leftOver p.session.queue p.room p.session.writer.unwritten + _ ≤ _ at hfew
      omega
    obtain ⟨q, hreach, hstopping, hroom, hclears'⟩ := room_of_fits hp hfits now
    obtain ⟨r, later, t', hlater, hr⟩ :=
      hgives (hreach.sound hp) (hstopping.trans ht) hroom (hclears' hclears)
    exact ⟨r, later, t', hreach.trans hlater, hr⟩

/-- **A stopping that can give all its orders gets to the killing** of a worker program that does
not end.

**Proof sketch.** By induction on how far the stopping is from its end. It comes to its next step,
and can still give all its orders after that; the last step before the end is the killing, unless
the program has ended. -/
theorem ends_of_clears (hp : p.Sound) {t : Stopping} (ht : p.session.stopping = some t)
    (hclears : p.session.works.Clears p.room) (now : Instant) : p.Ends now := by
  generalize hn : StopPhase.over.rank - t.phase.rank = n
  induction n using Nat.strong_induction_on generalizing p t now with
  | _ n ih =>
    have hworks := Session.works_phase ht
    by_cases hover : t.phase = .over
    · exact ⟨p, now, .here, .inl (hp.works.ended (hover ▸ hworks))⟩
    by_cases hkilling : t.phase = .killing
    · exact ⟨p, now, .here, .inr ((Session.killsProgram_iff _).2 (hkilling ▸ hworks))⟩
    obtain ⟨q, later, t', hreach, hclears', ht', hlt⟩ :
        ∃ q later t', p.Reaches now q later ∧ q.session.works.Clears q.room ∧
          q.session.stopping = some t' ∧ t.phase.rank < t'.phase.rank := by
      cases hphase : t.phase with
      | draining deadline =>
        exact hphase ▸ onward_of_session
          (Session.onward_of_draining hp.ledger hp.works ht hphase hclears now)
      | sending => exact hphase ▸ onward_of_giving hp ht (.inl hphase) hclears now
      | closing => exact hphase ▸ onward_of_giving hp ht (.inr hphase) hclears now
      | _ =>
        exact hphase ▸ onward_of_session (Session.onward hp.ledger hp.works ht hover hkilling
          (by simp [hphase]) (by simp [hphase]) (.inl hclears) now)
    have hrank := StopPhase.rank_lt_over hover
    obtain ⟨r, last, hlast, hends⟩ :=
      ih (StopPhase.over.rank - t'.phase.rank) (by omega) (hreach.sound hp) ht' hclears' later rfl
    exact ⟨r, last, hreach.trans hlast, hends⟩

/-- **A session that is not choked gets room for an order**, or a writer that takes no more. -/
theorem reaches_room (hp : p.Sound) (hfree : ¬ p.session.works.Choked p.room) (now : Instant) :
    ∃ q later, p.Reaches now q later ∧
      (q.session.writerOver = true ∨ q.session.queue.length < queueCapacity) := by
  by_cases hfits : p.session.writer.unwritten ≤ p.room
  · obtain ⟨q, hreach, -, hroom, -⟩ := room_of_fits hp hfits now
    exact ⟨q, now, hreach, hroom⟩
  by_cases hroom : p.session.queue.length < queueCapacity
  · exact ⟨p, now, .here, .inr hroom⟩
  have hends : p.Ends now := by
    cases hending : p.session.ending with
    | some ending => exact ⟨p, now, .here, .inl (by rw [hending]; rfl)⟩
    | none =>
      -- The stopping has given its last order, or the session would be choked.
      obtain ⟨phase, hphase, hrank⟩ :
          ∃ phase, p.session.works.phase = some phase ∧ 6 ≤ phase.rank := by
        by_contra hearly
        refine hfree ⟨Nat.not_le.1 hfits, Nat.not_lt.1 hroom, hending, fun phase hphase => ?_⟩
        exact Nat.le_of_lt_succ (Nat.not_le.1 fun hrank => hearly ⟨phase, hphase, hrank⟩)
      obtain ⟨t, ht, -⟩ := Session.exists_stopping hphase
      exact ends_of_clears hp ht
        (hp.works.clears (Works.ordersLeft_eq_zero hphase hrank) p.room) now
  obtain ⟨q, later, hreach, hending | hkills⟩ := hends
  · obtain ⟨u, hu, hfree⟩ := Session.room_of_ended (hreach.sound hp).works hending later
    exact ⟨{ q with session := u }, later, hreach.trans (.of_session hu), hfree⟩
  · obtain ⟨u, hu, -, hending⟩ := Session.ended_of_kills hkills later
    have hreach' := hreach.trans (.of_session hu)
    obtain ⟨v, hv, hfree⟩ := Session.room_of_ended (hreach'.sound hp).works hending later
    exact ⟨{ q with session := v }, later, hreach'.trans (.of_session hv), hfree⟩

/-! ## What goes on -/

/-- A request that does not wait for room in a choked session comes to its next step, and is by then
where it was. -/
lemma reaches_turn (hp : p.Sound) {r : Request} (hr : p.session.request? r.id = some r)
    (hfinished : r.isFinished = false)
    (hfree : ¬ (r.phase = .sending ∧ p.session.works.Choked p.room)) (now : Instant) :
    ∃ q later r', p.Reaches now q later ∧ q.session.request? r.id = some r' ∧ r'.phase = r.phase ∧
      (q.session.stepRequest r.id later).isSome = true := by
  have hnow (h : (p.session.stepRequest r.id now).isSome = true) :
      ∃ q later r', p.Reaches now q later ∧ q.session.request? r.id = some r' ∧
        r'.phase = r.phase ∧ (q.session.stepRequest r.id later).isSome = true :=
    ⟨p, now, r, .here, hr, rfl, h⟩
  cases hphase : r.phase with
  | registering => exact hphase ▸ hnow (by simp [Session.stepRequest, hr, hphase])
  | checking => exact hphase ▸ hnow (by simp [Session.stepRequest, hr, hphase])
  | sending =>
    obtain ⟨q, later, hreach, hroom⟩ := reaches_room hp (fun hc => hfree ⟨hphase, hc⟩) now
    rcases turn_or_same hreach hr with hturn | ⟨r', hr', hphase'⟩
    · exact hphase ▸ hturn
    · rw [hphase] at hphase'
      refine ⟨q, later, r', hreach, hr', hphase', ?_⟩
      simp only [Session.stepRequest, hr', hphase', Session.stepSending, Session.enqueue?]
      rcases hroom with hclosed | hroom
      · rw [if_pos hclosed]
        rfl
      · rw [if_pos hroom]
        split <;> rfl
  | waiting deadline =>
    refine ⟨p, _, r, .of_session (Session.reaches_atLast p.session now deadline), hr, hphase, ?_⟩
    simp only [Session.stepRequest, hr, hphase, Session.stepWaiting,
      if_pos (Session.le_atLast now deadline)]
    split
    · rfl
    · split <;> rfl
  | withdrawing cause => exact hphase ▸ hnow (by simp [Session.stepRequest, hr, hphase])
  | finished result =>
    rw [Request.isFinished, hphase] at hfinished
    cases hfinished

/-- **A request goes on without the worker program** unless it waits for room in a choked
session. -/
theorem requestGoesOn_iff (hp : p.Sound) {r : Request} (hr : p.session.request? r.id = some r)
    (hfinished : r.isFinished = false) (now : Instant) :
    p.RequestGoesOn now r.id ↔ ¬ (r.phase = .sending ∧ p.session.works.Choked p.room) := by
  constructor
  · rintro ⟨q, later, hreach, hsome⟩ ⟨hphase, hc⟩
    obtain ⟨hc', r', hr', hphase'⟩ := sending_of_choked_reaches hreach hc hr hphase
    rw [Session.stepRequest_of_choked hc' hr' hphase'] at hsome
    cases hsome
  · intro hfree
    obtain ⟨q, later, -, hreach, -, -, hsome⟩ := reaches_turn hp hr hfinished hfree now
    exact ⟨q, later, hreach, hsome⟩

/-- **The stopping goes on without the worker program** unless it waits for room in a choked
session. -/
theorem stoppingGoesOn_iff (hp : p.Sound) {t : Stopping} (ht : p.session.stopping = some t)
    (hover : t.phase ≠ .over) (now : Instant) :
    p.StoppingGoesOn now ↔
      ¬ ((t.phase = .sending ∨ t.phase = .closing) ∧ p.session.works.Choked p.room) := by
  have hworks := Session.works_phase ht
  constructor
  · rintro ⟨q, later, hreach, hsome⟩ ⟨hgives, hc⟩
    obtain ⟨hc', hphase⟩ := phase_of_choked_reaches hreach hp hc hworks hgives
    rw [Session.stepStopping_of_choked hc' (hreach.sound hp).works hphase hgives] at hsome
    cases hsome
  · intro hfree
    by_cases hkilling : t.phase = .killing
    · -- A program that is killed ends, and then the stopping lets go of it.
      obtain ⟨u, hreach, hstopping, hending⟩ :=
        Session.ended_of_kills ((Session.killsProgram_iff _).2 (hkilling ▸ hworks)) now
      refine ⟨{ p with session := u }, now, .of_session hreach, ?_⟩
      simp only [Session.stepStopping, hstopping, ht, hkilling, if_pos hending]
      rfl
    by_cases hgives : t.phase = .sending ∨ t.phase = .closing
    · obtain ⟨q, later, hreach, hroom⟩ := reaches_room hp (fun hc => hfree ⟨hgives, hc⟩) now
      rcases stoppingGoesOn_or_same hreach hp hworks with hgoes | hsame
      · exact hgoes
      · obtain ⟨t', ht', hphase⟩ := Session.exists_stopping hsame
        rw [← hphase] at hover hkilling
        obtain ⟨v, last, hlast, -, -, hsome⟩ := Session.stopping_ready (hreach.sound hp).works ht'
          hover hkilling (fun _ => hroom) later
        exact ⟨{ q with session := v }, last, hreach.trans (.of_session hlast), hsome⟩
    · obtain ⟨v, last, hlast, -, -, hsome⟩ := Session.stopping_ready hp.works ht hover hkilling
        (fun h => absurd h hgives) now
      exact ⟨{ p with session := v }, last, .of_session hlast, hsome⟩

/-- **The worker program ends or is killed**, once the stopping has begun, exactly if it has ended
or the stopping can give all its orders. -/
theorem ends_iff (hp : p.Sound) {t : Stopping} (ht : p.session.stopping = some t) (now : Instant) :
    p.Ends now ↔ p.session.ending.isSome = true ∨ p.session.works.Clears p.room := by
  constructor
  · rintro ⟨q, later, hreach, hends⟩
    by_contra hnot
    have hc := crowded_reaches hreach hp ((Session.crowded_iff _ _).2 hnot)
    rcases hends with hending | hkills
    · rw [show q.session.ending = none from hc.living] at hending
      cases hending
    · exact hc.early (hreach.sound hp).works ((Session.killsProgram_iff _).1 hkills) (by decide)
  · rintro (hending | hclears)
    · exact ⟨p, now, .here, .inl hending⟩
    · exact ends_of_clears hp ht hclears now

/-- **What goes on without the worker program.** Throughout every run of a session and its pipe,
whatever the pipe holds:

* a request that is not over can come to its next step, and so can a stopping that is not over, with
  nothing but time, the steps of the tasks and what the pipe takes by itself, exactly if it does not
  wait for room among the orders of a choked session;
* once the stopping has begun, the worker program ends or is killed, with nothing but that, exactly
  if it has ended already or the stopping can give all the orders that it has yet to give;
* a choked session is choked for as long as the worker program reads nothing and does not end,
  whatever its callers do, and a request that waits for room then waits until its caller gives it
  up. -/
theorem goes_on_unless_choked (root : Path) (requestTimeout idleTimeout : Span) (began : Instant)
    (capacity : Nat) (ms : List Moment) (now : Instant) :
    let p := (start root requestTimeout idleTimeout began capacity).run ms
    let s := p.session
    (∀ r, s.request? r.id = some r → r.isFinished = false →
      (p.RequestGoesOn now r.id ↔ ¬ (r.phase = .sending ∧ s.works.Choked p.room))) ∧
    (∀ t, s.stopping = some t → t.phase ≠ .over →
      (p.StoppingGoesOn now ↔
        ¬ ((t.phase = .sending ∨ t.phase = .closing) ∧ s.works.Choked p.room))) ∧
    (∀ t, s.stopping = some t →
      (p.Ends now ↔ s.ending.isSome = true ∨ s.works.Clears p.room)) ∧
    (s.works.Choked p.room → ∀ after, (∀ m ∈ after, m.event.isProgram = false) →
      (p.run after).session.works.Choked (p.run after).room ∧
        ∀ r, s.request? r.id = some r → r.phase = .sending →
          (∃ m ∈ after, m.event = .session (.abandoned r.id)) ∨
            ∃ r', (p.run after).session.request? r.id = some r' ∧ r'.phase = .sending) := by
  intro p s
  have hp : p.Sound := sound_run (sound_start root requestTimeout idleTimeout began capacity) ms
  refine ⟨fun r hr hfinished => requestGoesOn_iff hp hr hfinished now,
    fun t ht hover => stoppingGoesOn_iff hp ht hover now, fun t ht => ends_iff hp ht now, ?_⟩
  exact fun hc after hafter => ⟨choked_run hc after hafter,
    fun r hr hphase => sending_run hc hr hphase after hafter⟩

/-! ## A siege -/

/-- A worker program takes no input while one request more begins than there is room for, the first
with a frame that no pipe holds; then a caller orders the stopping, which waits for the requests for
as long as it does. -/
def siege : List Moment :=
  moments (Session.atOnce (Session.bulkBegins ++ Session.manyBegin) ++
    [⟨⟨0⟩, .dispose⟩, ⟨⟨drainTimeout.nanos⟩, .stopping⟩, ⟨⟨drainTimeout.nanos⟩, .stopping⟩])

/-- A session and its pipe after the siege. -/
def besieged : Piped :=
  (start ⟨"/root"⟩ (.ofSeconds 60) ⟨0⟩ ⟨0⟩ pipeCapacity).run siege

/-- When a run begins with a frame that no pipe holds, there is no room for it until the writer is
relieved. -/
lemma held_of_bulk {ms : List Moment}
    (hfirst : ms.take 5 = moments (Session.atOnce Session.bulkBegins.dropLast))
    (hlater : ∀ m ∈ ms.drop 5, m.event.isRelief = false) :
    let p := (start ⟨"/root"⟩ (.ofSeconds 60) ⟨0⟩ ⟨0⟩ pipeCapacity).run ms
    p.room < p.session.writer.unwritten := by
  intro p
  have hrun : p = ((start ⟨"/root"⟩ (.ofSeconds 60) ⟨0⟩ ⟨0⟩ pipeCapacity).run (ms.take 5)).run
      (ms.drop 5) := by
    rw [← run_append, List.take_append_drop]
  rw [hrun, hfirst]
  refine held_run ?_ _ hlater
  have htaken : ((start ⟨"/root"⟩ (.ofSeconds 60) ⟨0⟩ ⟨0⟩ pipeCapacity).run
      (moments (Session.atOnce Session.bulkBegins.dropLast))).session.writer =
        .writing (frameOf (requestFrame 1 .lint Session.bulk)) := rfl
  have hroom : ((start ⟨"/root"⟩ (.ofSeconds 60) ⟨0⟩ ⟨0⟩ pipeCapacity).run
      (moments (Session.atOnce Session.bulkBegins.dropLast))).room = pipeCapacity := rfl
  rw [htaken, hroom]
  exact Session.pipeCapacity_lt_bulk 1 .lint

/-- A session is choked when the pipe does not take the writer's frame, there is no room among the
orders, and the worker program lives, unless the stopping has given its last order. -/
lemma choked_of_held (hheld : p.room < p.session.writer.unwritten)
    (hfull : queueCapacity ≤ p.session.works.queue.length) (hliving : p.session.works.ending = none)
    (hearly : ∀ phase, p.session.works.phase = some phase → phase.rank ≤ 5) :
    p.session.works.Choked p.room :=
  ⟨hheld, hfull, hliving, hearly⟩

/-- In a choked session the stopping cannot give all its orders when it is about to give the first
of two. -/
lemma crowded_of_choked (hc : p.session.works.Choked p.room)
    (hphase : p.session.works.phase = some .sending) : p.session.works.Crowded p.room := by
  have hall := Works.leftOver_of_lt hc.held p.session.works.queue
  have hleft : p.session.works.ordersLeft = 2 := by simp only [Works.ordersLeft, hphase]
  have hfull := hc.full
  refine Works.crowded_of hc.living (fun hover => ?_) ?_
  · have hheld := hc.held
    rw [hover] at hheld
    cases hheld
  · rw [Works.load]
    omega

/-- In the siege the last request and the stopping are about to give orders, for which there is no
room. -/
lemma choked_besieged :
    besieged.session.works.Choked besieged.room ∧ besieged.session.works.Crowded besieged.room ∧
      besieged.session.works.phase = some .sending ∧
      ∃ r, besieged.session.request? r.id = some r ∧ r.phase = .sending := by
  have hheld : besieged.room < besieged.session.writer.unwritten :=
    held_of_bulk rfl (by decide +kernel)
  obtain ⟨hfull, hliving, hphase, hsending⟩ :
      queueCapacity ≤ besieged.session.works.queue.length ∧
      besieged.session.works.ending.isNone = true ∧
      besieged.session.works.phase = some .sending ∧
      (besieged.session.request? 66).any (fun r => r.phase.isQueued && !r.phase.isWaiting) =
        true := by
    decide +kernel
  have hc := choked_of_held hheld hfull (Option.isNone_iff_eq_none.1 hliving) fun phase h => by
    cases hphase.symm.trans h
    decide
  obtain ⟨r, hr, hfound⟩ := (Option.any_eq_true _ _).1 hsending
  simp only [Bool.and_eq_true, Bool.not_eq_true'] at hfound
  have hid : r.id = 66 := (Session.mem_of_request? hr).2
  exact ⟨hc, crowded_of_choked hc hphase, hphase, r, hid ▸ hr,
    RequestPhase.eq_sending hfound.1 hfound.2⟩

/-- **A worker program that takes no input blocks its callers and its own stopping**: in the siege a
request that is not over and the stopping come to no next step without the program, whatever time
passes and however much the pipe takes by itself, and the program is never killed. -/
theorem siege_blocks :
    (∃ r, besieged.session.request? r.id = some r ∧ r.isFinished = false ∧
        ¬ besieged.RequestGoesOn ⟨drainTimeout.nanos⟩ r.id) ∧
      (∃ t, besieged.session.stopping = some t ∧ t.phase ≠ .over ∧
        ¬ besieged.StoppingGoesOn ⟨drainTimeout.nanos⟩) ∧
      ¬ besieged.Ends ⟨drainTimeout.nanos⟩ := by
  have hp : besieged.Sound := sound_run (sound_start _ _ _ _ _) siege
  obtain ⟨hc, hcrowded, hphase, r, hr, hsending⟩ := choked_besieged
  have hfinished : r.isFinished = false := by rw [Request.isFinished, hsending]
  obtain ⟨t, ht, hstop⟩ := Session.exists_stopping hphase
  have hover : t.phase ≠ .over := by rw [hstop]; decide
  refine ⟨⟨r, hr, hfinished, fun hgoes => ?_⟩, ⟨t, ht, hover, fun hgoes => ?_⟩, fun hends => ?_⟩
  · exact (requestGoesOn_iff hp hr hfinished _).1 hgoes ⟨hsending, hc⟩
  · exact (stoppingGoesOn_iff hp ht hover _).1 hgoes ⟨.inl hstop, hc⟩
  · exact (Session.crowded_iff _ _).1 hcrowded ((ends_iff hp ht _).1 hends)

/-- In the siege the stopping does not go on, the program does not end, and another request, a turn
of every task and an attempt to write more change nothing. -/
theorem goes_on_unless_choked_siege :
    let ms := moments (Session.atOnce [.begin .lint .null, .request 66, .stopping, .writer,
      .accepted pipeCapacity])
    ¬ besieged.StoppingGoesOn ⟨0⟩ ∧ ¬ besieged.Ends ⟨0⟩ ∧
      (besieged.run ms).session.works.Choked (besieged.run ms).room ∧
      ∃ r, besieged.session.request? r.id = some r ∧ ¬ besieged.RequestGoesOn ⟨0⟩ r.id := by
  intro ms
  obtain ⟨hc, hcrowded, hphase, r, hr, hsending⟩ := choked_besieged
  obtain ⟨t, ht, hstop⟩ := Session.exists_stopping hphase
  have hmain := goes_on_unless_choked ⟨"/root"⟩ (.ofSeconds 60) ⟨0⟩ ⟨0⟩ pipeCapacity siege ⟨0⟩
  obtain ⟨hrequests, hstopping, hends, hlasting⟩ := hmain
  refine ⟨fun hgoes => ?_, fun h => ?_, (hlasting hc _ ?_).1, r, hr, fun hgoes => ?_⟩
  · exact (hstopping t ht (by rw [hstop]; decide)).1 hgoes ⟨.inl hstop, hc⟩
  · exact (Session.crowded_iff _ _).1 hcrowded ((hends t ht).1 h)
  · decide
  · have hfinished : r.isFinished = false := by rw [Request.isFinished, hsending]
    exact (hrequests r hr hfinished).1 hgoes ⟨hsending, hc⟩

end Piped

end LintPool
