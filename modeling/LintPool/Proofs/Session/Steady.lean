import LintPool.Proofs.Session.Works

set_option autoImplicit false

/-!
# What holds of the works of a session

The orders for the writer are no more than there is room for, the charge of the worker program goes
from hand to hand, and the stopping gives its orders one after the other. All this holds throughout
every run; and it holds of what a session comes to by itself, with nothing but time and the steps of
its tasks.

## Main definitions

* `LintPool.Works.Steady` — what holds of the works throughout a run.
* `LintPool.Session.ByItself`, `LintPool.Session.Reaches` — what may come about without the worker
  program, its pipe and any caller.

## Main results

* `LintPool.Session.steady_step` — what holds of the works holds after every event.
* `LintPool.Session.Reaches.steady` — it holds of what a session comes to by itself.
-/

namespace LintPool

namespace Works

/-- What holds of the works throughout a run. -/
structure Steady (w : Works) : Prop where
  /-- There are no more orders than there is room for. -/
  room : w.queue.length ≤ queueCapacity
  /-- The order to close the input is the last that the stopping gives. -/
  closed : .close ∈ w.queue → w.Past 6
  /-- The request to shut down has a number from when the stopping has ceased to wait. -/
  numbered : ∀ phase, w.phase = some phase → 1 ≤ phase.rank → phase.rank ≤ 4 →
    w.number.isSome = true
  /-- The reader is in charge of the worker program only while it waits for its end. -/
  awaited : w.keeper = some .reader → w.reader.isAwaiting = true
  /-- The stopping is in charge of it only while it waits for its end. -/
  reaped : w.keeper = some .stopping → w.Past 7
  /-- The stopping is over when the worker program has ended. -/
  ended : w.phase = some .over → w.ending.isSome = true

/-- The works of a session that has just been started. -/
lemma steady_start (root : Path) (requestTimeout idleTimeout : Span) (now : Instant) :
    (Session.start root requestTimeout idleTimeout now).works.Steady where
  room := Nat.zero_le _
  closed h := absurd h List.not_mem_nil
  numbered _ h := by cases h
  awaited h := by cases h
  reaped h := by cases h
  ended h := by cases h

end Works

namespace Session

variable {s : Session} {now : Instant} {e : Event} {w : Works}

/-! ## What holds of the works -/

/-- The writer takes no more exactly when it is over. -/
lemma writerOver_iff (s : Session) : s.writerOver = true ↔ s.writer = .over := by
  unfold writerOver
  split <;> simp_all

/-- The worker program is to be killed when the stopping is that far. -/
lemma killsProgram_iff (s : Session) :
    s.killsProgram = true ↔ s.works.phase = some .killing := by
  unfold killsProgram
  split
  · rename_i t ht
    simp [works_phase ht]
  · rename_i hnone
    simp [works, hnone]

/-- There are no more orders than there is room for. -/
lemma room_act (h : Act s now e w) (hroom : s.queue.length ≤ queueCapacity) :
    w.queue.length ≤ queueCapacity := by
  have hadd (o : WriterOrder) (h : s.queue.length < queueCapacity) :
      (s.queue ++ [o]).length ≤ queueCapacity := by
    rw [List.length_append]
    exact h
  cases h with
  | sent _ _ _ _ h => exact hadd _ h
  | stopped _ _ hstop =>
    cases hstop with
    | asked _ _ _ _ h _ => exact hadd _ h
    | closed _ _ h => exact hadd _ h
    | _ => exact hroom
  | taken _ _ _ hqueue =>
    rw [hqueue, List.length_cons] at hroom
    exact Nat.le_of_succ_le hroom
  | toldToClose _ _ _ => exact Nat.zero_le _
  | broken _ _ _ => exact Nat.zero_le _
  | _ => exact hroom

/-- The order to close the input is the last that the stopping gives. -/
lemma closed_act (hs : s.ledger.Sound) (h : Act s now e w)
    (hclosed : .close ∈ s.queue → s.works.Past 6) : .close ∈ w.queue → w.Past 6 := by
  intro hmem
  by_cases hbefore : .close ∈ s.queue
  · exact h.past hs (hclosed hbefore)
  · cases h with
    | sent _ _ _ _ _ => simp [hbefore] at hmem
    | stopped _ _ hstop =>
      cases hstop with
      | asked _ _ _ _ _ _ => simp [hbefore] at hmem
      | closed _ _ _ => exact ⟨.locking, rfl, by decide⟩
      | _ => exact absurd hmem hbefore
    | taken _ _ _ hqueue => exact absurd (hqueue ▸ List.mem_cons_of_mem _ hmem) hbefore
    | toldToClose _ _ _ => cases hmem
    | broken _ _ _ => cases hmem
    | _ => exact absurd hmem hbefore

/-- The request to shut down has a number from when the stopping has ceased to wait. -/
lemma numbered_act (h : Act s now e w) (hw : s.works.Steady) (phase : StopPhase)
    (hphase : w.phase = some phase) (hlow : 1 ≤ phase.rank) (hhigh : phase.rank ≤ 4) :
    w.number.isSome = true := by
  rcases h.phase_cases with ⟨hsame, hnumber⟩ | ⟨-, deadline, hnew⟩ | ⟨-, t, -, hstop⟩
  · rw [hnumber]
    exact hw.numbered phase (hsame.symm.trans hphase) hlow hhigh
  · cases hphase.symm.trans hnew
    cases hlow
  · cases hstop with
    | numbered _ _ _ => rfl
    | registered _ hid => exact hid
    | asked _ _ hid _ _ _ => exact hid ▸ rfl
    | refused _ hid _ => exact hid
    | waited _ hid => exact hid
    | _ =>
      cases hphase
      exact absurd hhigh (by simp [StopPhase.rank])

/-- The reader is in charge of the worker program only while it waits for its end. -/
lemma awaited_act (h : Act s now e w) (hw : s.works.Steady) :
    w.keeper = some .reader → w.reader.isAwaiting = true := by
  cases h with
  | stopped _ _ hstop =>
    cases hstop with
    | tookCharge _ _ _ => exact fun h => by cases h
    | letGo _ _ _ => exact fun h => by cases h
    | _ => exact hw.awaited
  | readOn _ _ hbefore _ _ =>
    intro hkeeper
    cases hbefore.symm.trans (hw.awaited hkeeper)
  | awaits _ _ _ _ => exact fun _ => rfl
  | awaited _ _ _ => exact fun h => by cases h
  | _ => exact hw.awaited

/-- The stopping is in charge of it only while it waits for its end. -/
lemma reaped_act (hs : s.ledger.Sound) (h : Act s now e w) (hw : s.works.Steady) :
    w.keeper = some .stopping → w.Past 7 := by
  intro hkeeper
  by_cases hbefore : s.keeper = some .stopping
  · exact h.past hs (hw.reaped hbefore)
  · cases h with
    | stopped _ _ hstop =>
      cases hstop with
      | tookCharge _ _ _ => exact ⟨_, rfl, by simp [StopPhase.rank]⟩
      | letGo _ _ _ => cases hkeeper
      | _ => exact absurd hkeeper hbefore
    | awaits _ _ _ _ => cases hkeeper
    | awaited _ _ _ => cases hkeeper
    | _ => exact absurd hkeeper hbefore

/-- The stopping is over when the worker program has ended. -/
lemma ended_act (h : Act s now e w) (hw : s.works.Steady) :
    w.phase = some .over → w.ending.isSome = true := by
  cases h with
  | begun _ _ _ => exact fun h => by cases h
  | stopped _ _ hstop =>
    cases hstop with
    | letGo _ _ hs => exact fun _ => hs
    | _ => exact fun h => by cases h
  | ended _ _ => exact fun _ => rfl
  | _ => exact hw.ended

/-- What holds of the works holds after every moment. -/
theorem steady_step (hs : s.ledger.Sound) (hw : s.works.Steady) (now : Instant) (e : Event) :
    (s.step now e).works.Steady where
  room := room_act (act_step s now e) hw.room
  closed := closed_act hs (act_step s now e) hw.closed
  numbered := numbered_act (act_step s now e) hw
  awaited := awaited_act (act_step s now e) hw
  reaped := reaped_act hs (act_step s now e) hw
  ended := ended_act (act_step s now e) hw

/-- A request stays where it is but for its own steps, unless its caller gives it up. -/
lemma phase_kept {r : Request} (hr : s.request? r.id = some r) (hown : e ≠ .request r.id)
    (now : Instant) :
    e = .abandoned r.id ∨ ∃ r', (s.step now e).request? r.id = some r' ∧ r'.phase = r.phase := by
  have hfate := fate_step hr now e
  generalize (s.step now e).request? r.id = o at hfate ⊢
  cases hfate with
  | kept _ _ => exact .inr ⟨r, rfl, rfl⟩
  | turned _ => exact absurd rfl hown
  | answered _ _ _ _ => exact .inr ⟨_, rfl, rfl⟩
  | abandoned => exact .inl rfl

/-! ## What comes about by itself -/

/-- Whether an event may come about without the worker program, its pipe and any caller: a program
that is killed ends, and the input and the output of one that has ended are closed. -/
def ByItself (s : Session) : Event → Prop
  | .request _ | .stopping | .watchdog | .writer | .reader => True
  | .ended _ => s.killsProgram = true
  | .inputBroken | .outputClosed => s.ending.isSome = true
  | _ => False

/-- What a session may come to, and when, if only time passes and events come about by
themselves. -/
inductive Reaches (s : Session) (now : Instant) : Session → Instant → Prop where
  | here : Reaches s now s now
  | waited {t : Session} {before after : Instant} (h : Reaches s now t before)
    (hle : before.nanos ≤ after.nanos) : Reaches s now t after
  | stepped {t : Session} {time : Instant} (h : Reaches s now t time) (e : Event)
    (he : t.ByItself e) : Reaches s now (t.step time e) time

/-- Nothing is given up by its caller by itself. -/
lemma ByItself.not_abandoned (he : s.ByItself e) (id : Nat) : e ≠ .abandoned id := by
  rintro rfl
  exact he

/-- As long as the worker program lives and is not to be killed, nothing comes from outside. -/
lemma ByItself.not_outside (he : s.ByItself e) (hliving : s.ending = none)
    (hkept : s.works.phase ≠ some .killing) : e.isOutside = false := by
  cases e with
  | ended _ => exact absurd ((killsProgram_iff s).1 he) hkept
  | inputBroken =>
    have hsome : s.ending.isSome = true := he
    rw [hliving] at hsome
    cases hsome
  | outputClosed =>
    have hsome : s.ending.isSome = true := he
    rw [hliving] at hsome
    cases hsome
  | accepted _ => exact he.elim
  | output _ => exact he.elim
  | _ => rfl

/-- What holds of the session and its works holds of what they come to. -/
lemma Reaches.steady {t : Session} {later : Instant} (h : Reaches s now t later)
    (hs : s.ledger.Sound) (hw : s.works.Steady) : t.ledger.Sound ∧ t.works.Steady := by
  induction h with
  | here => exact ⟨hs, hw⟩
  | waited _ _ ih => exact ih
  | stepped _ e _ ih => exact ⟨ih.1.move (move_step _ _ e), steady_step ih.1 ih.2 _ e⟩

end Session

end LintPool
