import LintPool.Host.Basic
import LintPool.Proofs.Session.Held
import LintPool.Proofs.Session.Steady

set_option autoImplicit false

/-!
# A session and the pipe to its worker program

What the writer writes goes into a pipe, and the worker program reads from there. The pipe takes
bytes as long as there is room in it, whether the program reads or not; when it is full, it takes
none until the program has read some. So what a session comes to without the worker program depends
on the room in the pipe too.

## Main definitions

* `LintPool.Piped` — a session, and the pipe to its worker program.
* `LintPool.Piped.step`, `LintPool.Piped.run` — what may happen to them.
* `LintPool.Piped.Unaided`, `LintPool.Piped.Reaches` — what may come about without the worker
  program and without a caller.
* `LintPool.Worker.piped` — a worker of a host, as a session and its pipe.

## Main results

* `LintPool.Piped.sound_run` — what holds of them throughout a run.
* `LintPool.Worker.exists_piped_run` — what happens to a worker of a host happens to its session and
  its pipe.
-/

namespace LintPool

/-- A session, and the pipe to its worker program. -/
structure Piped where
  /-- The session. -/
  session : Session
  /-- The most bytes that the pipe holds. -/
  capacity : Nat
  /-- The number of bytes in it. -/
  filled : Nat

namespace Piped

/-- A session that has just been started, and an empty pipe. -/
def start (root : Path) (requestTimeout idleTimeout : Span) (now : Instant) (capacity : Nat) :
    Piped :=
  ⟨Session.start root requestTimeout idleTimeout now, capacity, 0⟩

/-- The number of bytes for which there is room in the pipe. -/
def room (p : Piped) : Nat := p.capacity - p.filled

/-- The number of bytes that go into the pipe with an event of the session: as many as are asked
for, if the writer has so many and there is room for them. -/
def taken (p : Piped) : Session.Event → Nat
  | .accepted n => min n (min p.room p.session.writer.unwritten)
  | _ => 0

/-- What an event of the session comes to if the pipe takes no more than there is room for. -/
def limited (p : Piped) : Session.Event → Session.Event
  | .accepted n => .accepted (p.taken (.accepted n))
  | e => e

/-- What may happen to a session and its pipe. -/
inductive Event where
  /-- Something comes about in the session. -/
  | session (e : Session.Event)
  /-- The worker program reads so many bytes. -/
  | read (n : Nat)

/-- What an event does. -/
def step (p : Piped) (now : Instant) : Event → Piped
  | .session e =>
    { p with session := p.session.step now (p.limited e), filled := p.filled + p.taken e }
  | .read n => { p with filled := p.filled - n }

/-- The time, and what happens. -/
structure Moment where
  /-- The time. -/
  now : Instant
  /-- What happens. -/
  event : Event

/-- A session and its pipe after some moments. -/
def run (p : Piped) (ms : List Moment) : Piped :=
  ms.foldl (fun p m => p.step m.now m.event) p

/-- The moments of a session, as those of the session and its pipe. -/
def moments (ms : List Session.Moment) : List Moment := ms.map fun m => ⟨m.now, .session m.event⟩

/-- A run in two parts. -/
lemma run_append (p : Piped) (ms ns : List Moment) : p.run (ms ++ ns) = (p.run ms).run ns :=
  List.foldl_append

/-- Whether an event is an act of the worker program, or its end. That bytes go into the pipe is
not: the pipe takes them by itself. -/
def Event.isProgram : Event → Bool
  | .session (.accepted _) => false
  | .session e => e.isOutside
  | .read _ => true

variable {p q : Piped} {now later : Instant}

/-- An event of the session is no act of the worker program if it comes from inside, or if it is
that the pipe takes bytes. -/
lemma isProgram_eq_false_iff {e : Session.Event} :
    (Event.session e).isProgram = false ↔ (∃ n, e = .accepted n) ∨ e.isOutside = false := by
  cases e <;> simp [Event.isProgram, Session.Event.isOutside]

/-- All events of the session but that the pipe takes bytes leave the pipe as it is. -/
lemma step_of_not_accepted {e : Session.Event} (he : ∀ n, e ≠ .accepted n) (now : Instant) :
    p.step now (.session e) = { p with session := p.session.step now e } := by
  cases e with
  | accepted n => exact absurd rfl (he n)
  | _ => rfl

/-- So does what comes from inside the session. -/
lemma step_of_inside {e : Session.Event} (he : e.isOutside = false) (now : Instant) :
    p.step now (.session e) = { p with session := p.session.step now e } :=
  step_of_not_accepted (fun n h => by rw [h] at he; cases he) now

/-! ## What holds throughout a run -/

/-- What holds of a session and its pipe throughout a run. -/
structure Sound (p : Piped) : Prop where
  /-- The requests of the session are in order. -/
  ledger : p.session.ledger.Sound
  /-- So are its works. -/
  works : p.session.works.Steady
  /-- The pipe holds no more than it can. -/
  fits : p.filled ≤ p.capacity

/-- A session that has just been started, and an empty pipe. -/
lemma sound_start (root : Path) (requestTimeout idleTimeout : Span) (now : Instant)
    (capacity : Nat) : (start root requestTimeout idleTimeout now capacity).Sound where
  ledger := Session.sound_start root requestTimeout idleTimeout now
  works := Works.steady_start root requestTimeout idleTimeout now
  fits := Nat.zero_le _

/-- There is room for the bytes that go into the pipe. -/
lemma taken_le_room (p : Piped) (e : Session.Event) : p.taken e ≤ p.room := by
  unfold taken
  split
  · omega
  · exact Nat.zero_le _

/-- What holds of them holds after every moment. -/
lemma Sound.step (hp : p.Sound) (now : Instant) (e : Event) : (p.step now e).Sound := by
  cases e with
  | session e =>
    have htaken := p.taken_le_room e
    have hfits := hp.fits
    refine ⟨hp.ledger.move (Session.move_step p.session now (p.limited e)),
      Session.steady_step hp.ledger hp.works now (p.limited e), ?_⟩
    dsimp only [Piped.step]
    rw [room] at htaken
    omega
  | read n => exact ⟨hp.ledger, hp.works, Nat.le_trans (Nat.sub_le _ _) hp.fits⟩

/-- **What holds of a session and its pipe** holds throughout a run. -/
lemma sound_run (hp : p.Sound) (ms : List Moment) : (p.run ms).Sound := by
  induction ms generalizing p with
  | nil => exact hp
  | cons m ms ih => exact ih (hp.step m.now m.event)

/-- What happens to a session with its pipe may happen to it in a run of its own. -/
lemma exists_session_run (p : Piped) (ms : List Moment) :
    ∃ ns : List Session.Moment, (p.run ms).session = p.session.run ns := by
  induction ms generalizing p with
  | nil => exact ⟨[], rfl⟩
  | cons m ms ih =>
    obtain ⟨ns, hns⟩ := ih (p.step m.now m.event)
    cases hevent : m.event with
    | session e =>
      rw [hevent] at hns
      refine ⟨⟨m.now, p.limited e⟩ :: ns, ?_⟩
      rw [run, List.foldl_cons, hevent]
      exact hns
    | read n =>
      rw [hevent] at hns
      refine ⟨ns, ?_⟩
      rw [run, List.foldl_cons, hevent]
      exact hns

/-! ## What may come about unaided -/

/-- Whether an event may come about without the worker program and without a caller: the pipe takes
bytes by itself. -/
def Unaided (p : Piped) : Session.Event → Prop
  | .accepted _ => True
  | e => p.session.ByItself e

/-- What a session and its pipe may come to, and when, if only time passes and events come about
unaided. -/
inductive Reaches (p : Piped) (now : Instant) : Piped → Instant → Prop where
  | here : Reaches p now p now
  | waited {q : Piped} {before after : Instant} (h : Reaches p now q before)
    (hle : before.nanos ≤ after.nanos) : Reaches p now q after
  | stepped {q : Piped} {time : Instant} (h : Reaches p now q time) (e : Session.Event)
    (he : q.Unaided e) : Reaches p now (q.step time (.session e)) time

/-- What comes about by itself does so unaided. -/
lemma unaided_of_byItself {e : Session.Event} (he : p.session.ByItself e) : p.Unaided e := by
  cases e with
  | accepted _ => trivial
  | _ => exact he

/-- What comes about unaided does so by itself, or is that the pipe takes bytes. -/
lemma Unaided.accepted_or {e : Session.Event} (he : p.Unaided e) :
    (∃ n, e = .accepted n) ∨ p.session.ByItself e := by
  cases e with
  | accepted n => exact .inl ⟨n, rfl⟩
  | _ => exact .inr he

/-- What comes about unaided is not given up by its caller. -/
lemma Unaided.not_abandoned {e : Session.Event} (he : p.Unaided e) (id : Nat) :
    e ≠ .abandoned id := by
  rcases he.accepted_or with ⟨n, rfl⟩ | he
  · exact fun h => by cases h
  · exact he.not_abandoned id

/-- Neither is it when the pipe takes no more than there is room for. -/
lemma Unaided.limited_ne_abandoned {e : Session.Event} (he : p.Unaided e) (id : Nat) :
    p.limited e ≠ .abandoned id := by
  cases e with
  | abandoned _ => exact absurd rfl (he.not_abandoned _)
  | _ => exact fun h => by cases h

/-- As long as the worker program lives and is not to be killed, none of its acts comes about. -/
lemma Unaided.not_program {e : Session.Event} (he : p.Unaided e)
    (hliving : p.session.ending = none) (hkept : p.session.works.phase ≠ some .killing) :
    (Event.session e).isProgram = false := by
  rcases he.accepted_or with ⟨n, rfl⟩ | he
  · rfl
  · exact isProgram_eq_false_iff.2 (.inr (he.not_outside hliving hkept))

/-- What can be reached from what is reached is reached. -/
lemma Reaches.trans {r : Piped} {last : Instant} (h : p.Reaches now q later)
    (h' : q.Reaches later r last) : p.Reaches now r last := by
  induction h' with
  | here => exact h
  | waited _ hle ih => exact ih.waited hle
  | stepped _ e he ih => exact ih.stepped e he

/-- What a session comes to by itself it comes to with its pipe. -/
lemma Reaches.of_session {t : Session} (h : p.session.Reaches now t later) :
    p.Reaches now { p with session := t } later := by
  induction h with
  | here => exact .here
  | waited _ hle ih => exact ih.waited hle
  | stepped _ e he ih =>
    rename_i time
    have hstep := ih.stepped e (unaided_of_byItself he)
    rwa [step_of_not_accepted (fun n h => by rw [h] at he; exact he.elim)] at hstep

/-- What a session comes to with its pipe it may come to in a run of its own. -/
lemma Reaches.exists_session_run (h : p.Reaches now q later) :
    ∃ ns : List Session.Moment, q.session = p.session.run ns := by
  induction h with
  | here => exact ⟨[], rfl⟩
  | waited _ _ ih => exact ih
  | @stepped u time _ e _ ih =>
    obtain ⟨ns, hns⟩ := ih
    exact ⟨ns ++ [⟨time, u.limited e⟩], by rw [Session.run_concat, ← hns]; rfl⟩

/-- What holds of a session and its pipe holds of what they come to. -/
lemma Reaches.sound (h : p.Reaches now q later) (hp : p.Sound) : q.Sound := by
  induction h with
  | here => exact hp
  | waited _ _ ih => exact ih
  | stepped _ e _ ih => exact ih.step _ _

end Piped

/-! ## Workers of a host -/

namespace Session

/-- A step of whatever task can take one is a step of the session. -/
lemma exists_step_of_stepAny {s s' : Session} {now : Instant} (h : s.stepAny now = some s') :
    ∃ e, s' = s.step now e ∧ e.isOutside = false := by
  simp only [stepAny, Option.or_eq_some_iff] at h
  rcases h with h | ⟨-, h | ⟨-, h | ⟨-, h | ⟨-, h⟩⟩⟩⟩
  · obtain ⟨r, -, hr⟩ := List.exists_of_findSome?_eq_some h
    exact ⟨.request r.id, by rw [step, hr, Option.getD_some], rfl⟩
  · exact ⟨.reader, by rw [step, h, Option.getD_some], rfl⟩
  · exact ⟨.writer, by rw [step, h, Option.getD_some], rfl⟩
  · exact ⟨.stopping, by rw [step, h, Option.getD_some], rfl⟩
  · exact ⟨.watchdog, by rw [step, h, Option.getD_some], rfl⟩

end Session

/-- A program that runs takes bytes out of its input pipe only. -/
lemma Child.length_input_step {c c' : Child} {files files' : FileTree}
    (h : c.step files = some (c', files')) : c'.input.length ≤ c.input.length := by
  unfold Child.step at h
  split at h
  · cases h
  · split at h
    all_goals try (cases h; exact Nat.le_refl _)
    split at h
    · split at h <;> cases h
      exact Nat.le_refl _
    · cases h
      rw [List.length_drop]
      exact Nat.sub_le _ _

/-- So it does with everything that it does in its turn. -/
lemma Child.length_input_run {fuel : Nat} {c c' : Child} {files files' : FileTree}
    (h : c.run fuel files = some (c', files')) : c'.input.length ≤ c.input.length := by
  induction fuel generalizing c files with
  | zero => cases h
  | succ fuel ih =>
    rw [Child.run] at h
    split at h
    · cases h
    · rename_i c₁ files₁ hstep
      have hfirst := Child.length_input_step hstep
      cases hrest : c₁.run fuel files₁ with
      | none =>
        rw [hrest] at h
        cases h
        exact hfirst
      | some last =>
        rw [hrest] at h
        cases h
        exact Nat.le_trans (ih hrest) hfirst

namespace Worker

/-- A worker of a host, as a session and its pipe. -/
def piped (w : Worker) : Piped := ⟨w.session, pipeCapacity, w.child.input.length⟩

/-- What a worker does with its input is what its session and its pipe do. -/
lemma exists_piped_passInput {w w' : Worker} (h : w.passInput = some w') (now : Instant) :
    ∃ es : List Piped.Event, w'.piped = w.piped.run (es.map fun e => ⟨now, e⟩) := by
  unfold passInput at h
  split at h
  · rename_i b rest hwriter
    split at h
    · cases h
      exact ⟨[.session .inputBroken], rfl⟩
    · dsimp only at h
      split at h <;> cases h
      refine ⟨[.session (.accepted (min w.child.room (b :: rest).length))], ?_⟩
      have htaken : w.piped.taken (.accepted (min w.child.room (b :: rest).length)) =
          min w.child.room (b :: rest).length := by
        have hunwritten : w.session.writer.unwritten = (b :: rest).length := by
          rw [hwriter, Writer.unwritten]
        rw [Piped.taken, piped, Piped.room, hunwritten, Child.room]
        exact Nat.min_self _
      simp only [List.map_cons, List.map_nil, Piped.run, List.foldl_cons, List.foldl_nil,
        Piped.step, Piped.limited, htaken]
      simp [piped, Session.step]
  · split at h <;> cases h
    exact ⟨[], rfl⟩
  · cases h

/-- **What happens to a worker of a host** in one turn happens to its session and its pipe. -/
theorem exists_piped_run {w w' : Worker} {now : Instant} {files files' : FileTree}
    (h : w.turn now files = some (w', files')) :
    ∃ es : List Piped.Event, w'.piped = w.piped.run (es.map fun e => ⟨now, e⟩) := by
  unfold turn at h
  split at h
  · rename_i session hstep
    cases h
    obtain ⟨e, rfl, he⟩ := Session.exists_step_of_stepAny hstep
    refine ⟨[.session e], ?_⟩
    cases e with
    | accepted _ => cases he
    | _ => rfl
  · split at h
    · rename_i w₁ hpass
      cases h
      rcases Option.or_eq_some_iff.1 hpass with hpass | ⟨-, hending⟩
      · rcases Option.or_eq_some_iff.1 hpass with hinput | ⟨-, houtput⟩
        · exact exists_piped_passInput hinput now
        · unfold passOutput at houtput
          split at houtput
          · cases houtput
          · split at houtput
            · cases houtput
              exact ⟨[.session (.output w.child.output)], rfl⟩
            · split at houtput <;> cases houtput
              exact ⟨[.session .outputClosed], rfl⟩
      · unfold passEnding at hending
        split at hending
        · rename_i ending _ _
          cases hending
          exact ⟨[.session (.ended ending)], rfl⟩
        · split at hending <;> cases hending
          refine ⟨[], ?_⟩
          have hinput : w.child.kill.input = w.child.input := by
            unfold Child.kill
            split <;> rfl
          rw [piped, hinput]
          rfl
        · cases hending
    · obtain ⟨⟨child, files₁⟩, hrun, hw⟩ := Option.map_eq_some_iff.1 h
      cases hw
      have hle := Child.length_input_run hrun
      refine ⟨[.read (w.child.input.length - child.input.length)], ?_⟩
      have hleft : w.child.input.length - (w.child.input.length - child.input.length) =
          child.input.length := Nat.sub_sub_self hle
      simp [piped, Piped.run, Piped.step, hleft]

end Worker

end LintPool
