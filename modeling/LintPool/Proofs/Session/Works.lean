import Mathlib.Data.List.Induction
import LintPool.Proofs.Session.Pending

set_option autoImplicit false

/-!
# The works of a session

The orders for the writer, the writer, the reader, the stopping and the charge of the worker program
make up the works of a session: they go on whether the requests do or not. What one moment can do to
them is said once, as a relation with a case for each way in which they move on.

## Main definitions

* `LintPool.Works`, `LintPool.Session.works` — the part of the state.
* `LintPool.Session.StopAct`, `LintPool.Session.Act` — the steps of the stopping, and the ways in
  which the works move on.
* `LintPool.Session.log` — what is noted at the moments of a run.

## Main results

* `LintPool.Session.act_step` — every step is one of the acts.
* `LintPool.Session.Act.past` — the stopping goes forward only.
* `LintPool.Session.log_once` — what is noted on its way is noted once at most.
* `LintPool.Session.mem_log` — what is noted in a run was noted at one of its moments.
-/

namespace LintPool

/-- How far the stopping is, in numbers. -/
def StopPhase.rank : StopPhase → Nat
  | .draining _ => 0
  | .registering => 1
  | .sending => 2
  | .waiting _ => 3
  | .withdrawing => 4
  | .closing => 5
  | .locking => 6
  | .reaping _ => 7
  | .killing => 8
  | .over => 9

/-- A stopping that is not over is not as far as one that is. -/
lemma StopPhase.rank_lt_over {phase : StopPhase} (h : phase ≠ .over) :
    phase.rank < StopPhase.over.rank := by
  unfold rank
  split
  all_goals first | decide | exact absurd rfl h

/-- Whether the reader may still wait for the worker's output. -/
def Reader.isHearing : Reader → Bool
  | .reading _ _ none => true
  | _ => false

/-- Whether the reader is in charge of the worker program. -/
def Reader.isAwaiting : Reader → Bool
  | .awaiting _ _ => true
  | _ => false

/-- A reader that is in charge of the worker program waits for its end until some time. -/
lemma Reader.exists_of_isAwaiting {reader : Reader} (h : reader.isAwaiting = true) :
    ∃ reason deadline, reader = .awaiting reason deadline := by
  cases reader with
  | awaiting reason deadline => exact ⟨reason, deadline, rfl⟩
  | _ => cases h

/-- What goes on in a session beside the requests. -/
structure Works where
  /-- The orders for the writer. -/
  queue : List WriterOrder
  /-- How far the writer is. -/
  writer : Writer
  /-- How far the reader is. -/
  reader : Reader
  /-- How far the stopping is, if it has begun. -/
  phase : Option StopPhase
  /-- The number of the request to shut down. -/
  number : Option Nat
  /-- Who is in charge of the worker program. -/
  keeper : Option Keeper
  /-- How the worker program ended, if it has. -/
  ending : Option Ending

/-- The stopping has begun, and is so far at least. -/
def Works.Past (w : Works) (n : Nat) : Prop :=
  ∃ phase, w.phase = some phase ∧ n ≤ phase.rank

namespace Session

/-- The works of a session. -/
def works (s : Session) : Works where
  queue := s.queue
  writer := s.writer
  reader := s.reader
  phase := s.stopping.map (·.phase)
  number := s.stopping.bind (·.id)
  keeper := s.keeper
  ending := s.ending

/-- How far the stopping is, in the works. -/
lemma works_phase {s : Session} {t : Stopping} (ht : s.stopping = some t) :
    s.works.phase = some t.phase := by
  rw [works, ht]
  rfl

/-- A stopping that is somewhere has begun. -/
lemma exists_stopping {s : Session} {phase : StopPhase} (h : s.works.phase = some phase) :
    ∃ t, s.stopping = some t ∧ t.phase = phase :=
  Option.map_eq_some_iff.1 h

/-- Whether an event comes from outside, that is from the pipes between the session and the worker
program or from the program itself. -/
def Event.isOutside : Event → Bool
  | .accepted _ | .inputBroken | .output _ | .outputClosed | .ended _ => true
  | _ => false

/-! ## What is noted in a run -/

section

variable {α : Type} (f : Session → Moment → List α)

/-- What is noted at the moments of a run. -/
def log (s : Session) : List Moment → List α
  | [] => []
  | m :: ms => f s m ++ (s.step m.now m.event).log ms

/-- What is noted in a run of two parts. -/
lemma log_append (s : Session) (ms ns : List Moment) :
    s.log f (ms ++ ns) = s.log f ms ++ (s.run ms).log f ns := by
  induction ms generalizing s with
  | nil => rfl
  | cons m ms ih =>
    simp only [List.cons_append, log, ih, List.append_assoc]
    rfl

/-- What is noted in a run and one more moment. -/
lemma log_concat (s : Session) (ms : List Moment) (m : Moment) :
    s.log f (ms ++ [m]) = s.log f ms ++ f (s.run ms) m := by
  rw [log_append, log, log, List.append_nil]

variable {f} in
/-- What is noted in a run was noted at one of its moments. -/
lemma mem_log {s : Session} {ms : List Moment} {a : α} (h : a ∈ s.log f ms) :
    ∃ before m after, ms = before ++ m :: after ∧ a ∈ f (s.run before) m := by
  induction ms generalizing s with
  | nil => cases h
  | cons m ms ih =>
    rcases List.mem_append.1 h with hnow | hlater
    · exact ⟨[], m, ms, rfl, hnow⟩
    · obtain ⟨before, m', after, rfl, hm'⟩ := ih hlater
      exact ⟨m :: before, m', after, rfl, hm'⟩

end

/-! ## Acts -/

/-- The steps of the stopping. -/
inductive StopAct (s : Session) (now : Instant) (t : Stopping) : Works → Prop where
  | numbered {deadline : Instant} (h : t.phase = .draining deadline)
    (hover : s.inFlight = 0 ∨ deadline.nanos ≤ now.nanos) (hs : s.exited = false) :
    StopAct s now t { s.works with phase := some .registering, number := some s.nextId }
  | spared {deadline : Instant} (h : t.phase = .draining deadline)
    (hover : s.inFlight = 0 ∨ deadline.nanos ≤ now.nanos) (hs : s.exited = true) :
    StopAct s now t { s.works with phase := some .closing, number := t.id }
  | registered (h : t.phase = .registering) (hid : t.id.isSome = true) :
    StopAct s now t { s.works with phase := some .sending, number := t.id }
  | asked (h : t.phase = .sending) (id : Nat) (hid : t.id = some id)
    (hopen : s.writerOver = false) (hroom : s.queue.length < queueCapacity) (deadline : Instant) :
    StopAct s now t
      { s.works with
        queue := s.queue ++ [.send (requestFrame id .shutdown .null)]
        phase := some (.waiting deadline)
        number := t.id }
  | refused (h : t.phase = .sending) (hid : t.id.isSome = true) (hs : s.writerOver = true) :
    StopAct s now t { s.works with phase := some .withdrawing, number := t.id }
  | waited {deadline : Instant} (h : t.phase = .waiting deadline) (hid : t.id.isSome = true) :
    StopAct s now t { s.works with phase := some .withdrawing, number := t.id }
  | struck (h : t.phase = .withdrawing) :
    StopAct s now t { s.works with phase := some .closing, number := t.id }
  | unnumbered (h : 1 ≤ t.phase.rank ∧ t.phase.rank ≤ 4) (hid : t.id = none) :
    StopAct s now t { s.works with phase := some .closing, number := t.id }
  | closed (h : t.phase = .closing) (hopen : s.writerOver = false)
    (hroom : s.queue.length < queueCapacity) :
    StopAct s now t
      { s.works with queue := s.queue ++ [.close], phase := some .locking, number := t.id }
  | closedBefore (h : t.phase = .closing) (hs : s.writerOver = true) :
    StopAct s now t { s.works with phase := some .locking, number := t.id }
  | tookCharge (h : t.phase = .locking) (hkeeper : s.keeper = none) (deadline : Instant) :
    StopAct s now t
      { s.works with
        phase := some (.reaping deadline)
        number := t.id
        keeper := some .stopping }
  | outwaited {deadline : Instant} (h : t.phase = .reaping deadline) (hs : s.ending = none) :
    StopAct s now t { s.works with phase := some .killing, number := t.id }
  | letGo (h : 7 ≤ t.phase.rank) (hover : t.phase ≠ .over) (hs : s.ending.isSome = true) :
    StopAct s now t { s.works with phase := some .over, number := t.id, keeper := none }

/-- The ways in which the works move on. -/
inductive Act (s : Session) (now : Instant) : Event → Works → Prop where
  | sent (r : Request) (hr : s.request? r.id = some r) (hphase : r.phase = .sending)
    (hopen : s.writerOver = false) (hroom : s.queue.length < queueCapacity) :
    Act s now (.request r.id)
      { s.works with queue := s.queue ++ [.send (requestFrame r.id r.task.method r.params)] }
  | begun (e : Event) (h : s.disposed = false) (deadline : Instant) :
    Act s now e { s.works with phase := some (.draining deadline), number := none }
  | stopped (t : Stopping) (ht : s.stopping = some t) {w : Works} (h : StopAct s now t w) :
    Act s now .stopping w
  | taken (frame : Json) (rest : List WriterOrder) (hwriter : s.writer = .idle)
    (hqueue : s.queue = .send frame :: rest) :
    Act s now .writer { s.works with queue := rest, writer := .writing (frameOf frame) }
  | toldToClose (rest : List WriterOrder) (hwriter : s.writer = .idle)
    (hqueue : s.queue = .close :: rest) :
    Act s now .writer { s.works with queue := [], writer := .over }
  | written (hwriter : s.writer = .writing []) :
    Act s now .writer { s.works with writer := .idle }
  | accepted (n : Nat) (rest : Bytes) (hwriter : s.writer = .writing rest) :
    Act s now (.accepted n) { s.works with writer := .writing (rest.drop n) }
  | broken (b : UInt8) (rest : Bytes) (hwriter : s.writer = .writing (b :: rest)) :
    Act s now .inputBroken { s.works with queue := [], writer := .over }
  | readOn (e : Event) (reader : Reader) (hbefore : s.reader.isAwaiting = false)
    (hafter : reader.isAwaiting = false)
    (hhearing : e.isOutside = false → reader.isHearing = s.reader.isHearing) :
    Act s now e { s.works with reader }
  | awaits (reason : String) (hreader : s.reader = .locking reason) (hkeeper : s.keeper = none)
    (deadline : Instant) :
    Act s now .reader
      { s.works with reader := .awaiting reason deadline, keeper := some .reader }
  | awaited (reason reason' : String) {deadline : Instant}
    (hreader : s.reader = .awaiting reason deadline) :
    Act s now .reader { s.works with reader := .noting reason', keeper := none }
  | ended (ending : Ending) (h : s.ending = none) :
    Act s now (.ended ending) { s.works with ending := some ending }
  | aside (e : Event) : Act s now e s.works

section

variable {s : Session} {now : Instant}

/-- Ordering the stopping of the worker begins it, or does nothing. -/
lemma act_dispose (s s' : Session) (now : Instant) (e : Event)
    (hworks : s'.works = s.works) (hdisposed : s'.disposed = s.disposed) :
    Act s now e (s'.dispose now).works := by
  unfold dispose
  split
  · rw [hworks]
    exact .aside e
  · rename_i h
    rw [hdisposed] at h
    have hact : Act s now e _ := .begun e (Bool.eq_false_iff.2 h) (deadlineAfter now drainTimeout)
    rw [← hworks] at hact
    exact hact

/-- What a request does to the works. -/
lemma act_request (s : Session) (now : Instant) (id : Nat) :
    Act s now (.request id) ((s.stepRequest id now).getD s).works := by
  unfold stepRequest
  split
  · exact .aside _
  · rename_i r hr
    have hid : r.id = id := by simpa using List.find?_some hr
    subst hid
    split
    · exact .aside _
    · unfold stepChecking
      split <;> exact .aside _
    · rename_i hphase
      unfold stepSending enqueue?
      split
      · exact .aside _
      · rename_i hopen
        split
        · exact .sent r hr hphase (Bool.eq_false_iff.2 hopen) ‹_›
        · exact .aside _
    · unfold stepWaiting
      split
      · exact .aside _
      · split
        · exact .aside _
        · split <;> exact .aside _
    · rename_i cause _
      cases cause with
      | sessionOver => exact .aside _
      | inputClosed => exact .aside _
      | timedOut => exact act_dispose s (s.strike r.id) now _ rfl rfl
    · exact .aside _

/-- A step that the stopping takes is one of its acts. -/
lemma stopAct_step {t : Stopping} (ht : s.stopping = some t) {s' : Session}
    (h : s.stepStopping now = some s') : StopAct s now t s'.works := by
  simp only [stepStopping, ht] at h
  obtain ⟨phase, number, answered⟩ := t
  cases phase with
  | draining deadline =>
    dsimp only at h
    unfold stepDraining at h
    split at h
    · have hover : s.inFlight = 0 ∨ deadline.nanos ≤ now.nanos := by
        simpa using ‹(decide (s.inFlight = 0) || decide (deadline.nanos ≤ now.nanos)) = true›
      split at h <;> cases h
      · exact .spared rfl hover ‹_›
      · exact .numbered rfl hover (Bool.eq_false_iff.2 ‹_›)
    · cases h
  | registering =>
    cases number with
    | none => cases h; exact .unnumbered (by simp [StopPhase.rank]) rfl
    | some id => cases h; exact .registered rfl rfl
  | sending =>
    cases number with
    | none => cases h; exact .unnumbered (by simp [StopPhase.rank]) rfl
    | some id =>
      dsimp only at h
      unfold stepShutdownSending enqueue? at h
      split at h
      · cases h
        exact .refused rfl rfl ‹_›
      · split at h <;> cases h
        exact .asked rfl id rfl (Bool.eq_false_iff.2 ‹_›) ‹_› _
  | waiting deadline =>
    cases number with
    | none => cases h; exact .unnumbered (by simp [StopPhase.rank]) rfl
    | some id =>
      dsimp only at h
      split at h <;> cases h
      exact .waited rfl rfl
  | withdrawing =>
    cases number with
    | none => cases h; exact .unnumbered (by simp [StopPhase.rank]) rfl
    | some id => cases h; exact .struck rfl
  | closing =>
    dsimp only at h
    unfold stepClosing enqueue? at h
    split at h
    · cases h
      exact .closedBefore rfl ‹_›
    · split at h <;> cases h
      exact .closed (t := ⟨.closing, number, answered⟩) rfl (Bool.eq_false_iff.2 ‹_›) ‹_›
  | locking =>
    dsimp only at h
    unfold stepLocking at h
    split at h <;> cases h
    exact .tookCharge rfl ‹_› _
  | reaping deadline =>
    dsimp only at h
    split at h
    · cases h
      exact .letGo (t := ⟨.reaping deadline, number, answered⟩) (by simp [StopPhase.rank]) (by simp)
        ‹_›
    · split at h <;> cases h
      exact .outwaited rfl (by simpa using ‹¬ s.ending.isSome = true›)
  | killing =>
    dsimp only at h
    split at h <;> cases h
    exact .letGo (t := ⟨.killing, number, answered⟩) (by simp [StopPhase.rank]) (by simp) ‹_›
  | _ => cases h

/-- What the stopping does to the works. -/
lemma act_stopping (s : Session) (now : Instant) :
    Act s now .stopping ((s.stepStopping now).getD s).works := by
  cases h : s.stepStopping now with
  | none => exact .aside _
  | some s' =>
    cases ht : s.stopping with
    | none =>
      rw [stepStopping, ht] at h
      cases h
    | some t => exact .stopped t ht (stopAct_step ht h)

/-- A frame that is handed out is no business of the works. -/
lemma works_dispatch (s : Session) (frame : Json) : (s.dispatch frame).works = s.works := by
  unfold dispatch
  split
  · rename_i id reply _
    unfold answer
    split
    · -- A reply to the request to shut down is noted with the stopping, which stays where it is.
      cases hstopping : s.stopping with
      | none => simp only [works, strike, mapRequest, hstopping, Option.map_none]
      | some t =>
        simp only [works, strike, mapRequest, hstopping, Option.map_some, Option.bind_some]
        split <;> rfl
    · rfl
  · rfl
  · rfl

/-- What the reader does to the works. -/
lemma act_reader (s : Session) (now : Instant) :
    Act s now .reader ((s.stepReader now).getD s).works := by
  unfold stepReader
  split
  · rename_i decoder frame inbox reason hreader
    rw [Option.getD_some, works_dispatch]
    refine .readOn _ (.reading decoder inbox reason) (by rw [hreader]; rfl) rfl fun _ => ?_
    rw [hreader]
    cases reason <;> rfl
  · rename_i hreader
    exact .readOn _ (.locking _) (by rw [hreader]; rfl) rfl fun _ => (by rw [hreader]; rfl)
  · exact .aside _
  · rename_i reason hreader
    unfold stepReaderLocking
    split
    · exact .aside _
    · split
      · exact .readOn _ (.noting _) (by rw [hreader]; rfl) rfl fun _ => (by rw [hreader]; rfl)
      · exact .awaits reason hreader ‹_› _
  · rename_i reason deadline hreader
    unfold stepAwaiting
    split
    · exact .awaited reason _ hreader
    · split
      · exact .awaited reason _ hreader
      · exact .aside _
  · rename_i hreader
    exact .readOn _ .exiting (by rw [hreader]; rfl) rfl fun _ => (by rw [hreader]; rfl)
  · rename_i hreader
    exact .readOn _ .clearing (by rw [hreader]; rfl) rfl fun _ => (by rw [hreader]; rfl)
  · rename_i hreader
    exact .readOn _ .over (by rw [hreader]; rfl) rfl fun _ => (by rw [hreader]; rfl)
  · exact .aside _

/-- What the writer does to the works. -/
lemma act_writer (s : Session) (now : Instant) : Act s now .writer (s.stepWriter.getD s).works := by
  unfold stepWriter
  split
  · exact .taken _ _ ‹_› ‹_›
  · exact .toldToClose _ ‹_› ‹_›
  · exact .written ‹_›
  · exact .aside _

/-- The worker's output is read on. -/
lemma act_setReading (s : Session) (now : Instant) {e : Event} (he : e.isOutside = true)
    {decoder decoder' : FrameDecoder} {inbox inbox' : List Json} {reason reason' : Option String}
    (hreader : s.reader = .reading decoder inbox reason) :
    Act s now e { s with reader := .reading decoder' inbox' reason' }.works :=
  .readOn e _ (by rw [hreader]; rfl) rfl fun hinside => by cases he.symm.trans hinside

/-- **Every step** is one of the acts. -/
theorem act_step (s : Session) (now : Instant) (e : Event) : Act s now e (s.step now e).works := by
  cases e with
  | begin task params =>
    dsimp only [step]
    unfold Session.begin
    split <;> exact .aside _
  | request id => exact act_request s now id
  | abandoned id =>
    dsimp only [step]
    unfold abandon
    split
    · exact .aside _
    · dsimp only
      split <;> exact .aside _
  | dispose => exact act_dispose s s now _ rfl rfl
  | stopping => exact act_stopping s now
  | watchdog =>
    dsimp only [step]
    unfold stepWatchdog
    split
    · exact .aside _
    · split
      · split
        · exact .aside _
        · split
          · exact act_dispose s { s with watchdog := .over } now _ rfl rfl
          · exact .aside _
      · exact .aside _
  | writer => exact act_writer s now
  | reader => exact act_reader s now
  | accepted n =>
    dsimp only [step]
    unfold accept
    split
    · exact .accepted n _ ‹_›
    · exact .aside _
  | inputBroken =>
    dsimp only [step]
    unfold breakInput
    split
    · exact .broken _ _ ‹_›
    · exact .aside _
  | output bytes =>
    dsimp only [step]
    unfold receive
    split
    · exact act_setReading s now rfl ‹_›
    · exact .aside _
  | outputClosed =>
    dsimp only [step]
    unfold closeOutput
    split
    · exact act_setReading s now rfl ‹_›
    · exact .aside _
  | ended ending =>
    dsimp only [step]
    split
    · exact .aside _
    · rename_i hending
      exact .ended ending (by simpa using hending)

/-! ## The stopping goes forward -/

/-- The steps of the stopping go forward. -/
lemma StopAct.rank_lt {t : Stopping} {w : Works} (h : StopAct s now t w) :
    ∃ phase, w.phase = some phase ∧ t.phase.rank < phase.rank := by
  cases h with
  | unnumbered h _ => exact ⟨_, rfl, Nat.lt_of_le_of_lt h.2 (by decide)⟩
  | letGo _ hover _ => exact ⟨_, rfl, StopPhase.rank_lt_over hover⟩
  | _ =>
    refine ⟨_, rfl, ?_⟩
    rw [‹t.phase = _›]
    simp [StopPhase.rank]

/-- At each moment the stopping stays where it is, begins, or takes a step. -/
lemma Act.phase_cases {e : Event} {w : Works} (h : Act s now e w) :
    (w.phase = s.works.phase ∧ w.number = s.works.number) ∨
      (s.disposed = false ∧ ∃ deadline, w.phase = some (.draining deadline)) ∨
      e = .stopping ∧ ∃ t, s.stopping = some t ∧ StopAct s now t w := by
  cases h with
  | begun _ hdisposed deadline => exact .inr (.inl ⟨hdisposed, deadline, rfl⟩)
  | stopped t ht hstop => exact .inr (.inr ⟨rfl, t, ht, hstop⟩)
  | _ => exact .inl ⟨rfl, rfl⟩

/-- At each moment a stopping that has begun stays where it is, or takes a step. -/
lemma Act.kept_or_stopped {e : Event} {w : Works} (h : Act s now e w) (hs : s.ledger.Sound)
    {phase : StopPhase} (hphase : s.works.phase = some phase) :
    w.phase = some phase ∨ e = .stopping ∧ ∃ t, s.stopping = some t ∧ StopAct s now t w := by
  rcases h.phase_cases with hsame | ⟨hdisposed, -⟩ | hstopped
  · exact .inl (hsame.1.trans hphase)
  · have hnone : s.stopping = none := hs.ordered hdisposed
    rw [works, hnone] at hphase
    cases hphase
  · exact .inr hstopped

/-- **A stopping that has begun is there from then on**, and goes no way back. -/
theorem Act.past {e : Event} {w : Works} (h : Act s now e w) (hs : s.ledger.Sound) {n : Nat}
    (hpast : s.works.Past n) : w.Past n := by
  obtain ⟨phase, hphase, hrank⟩ := hpast
  rcases h.kept_or_stopped hs hphase with hsame | ⟨-, t, ht, hstop⟩
  · exact ⟨phase, hsame, hrank⟩
  · cases (works_phase ht).symm.trans hphase
    obtain ⟨phase', hnew, hlt⟩ := hstop.rank_lt
    exact ⟨phase', hnew, Nat.le_trans hrank (Nat.le_of_lt hlt)⟩

/-- What is noted only while the stopping is not so far, and brings it there, is noted once at
most. -/
theorem log_once {α : Type} {f : Session → Moment → List α} {n : Nat}
    (hf : ∀ s m, s.ledger.Sound → f s m = [] ∨
      (∃ a, f s m = [a]) ∧ ¬ s.works.Past n ∧ (s.step m.now m.event).works.Past n)
    (hs : s.ledger.Sound) (ms : List Moment) :
    (s.log f ms).length ≤ 1 ∧ (s.log f ms ≠ [] → (s.run ms).works.Past n) := by
  induction ms using List.reverseRecOn with
  | nil => exact ⟨Nat.zero_le _, fun h => absurd rfl h⟩
  | append_singleton ms m ih =>
    obtain ⟨hlength, hpast⟩ := ih
    have hrun := sound_run hs ms
    rw [log_concat, run_concat]
    rcases hf (s.run ms) m hrun with hnone | ⟨⟨a, hnew⟩, hnot, hnow⟩
    · rw [hnone, List.append_nil]
      exact ⟨hlength, fun hne => (act_step _ m.now m.event).past hrun (hpast hne)⟩
    · have hnil : s.log f ms = [] := by
        by_contra hne
        exact hnot (hpast hne)
      rw [hnil, hnew]
      exact ⟨Nat.le_refl _, fun _ => hnow⟩

end

end Session

end LintPool
