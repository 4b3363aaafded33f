import Mathlib.Data.List.Induction
import LintPool.Proofs.Pool.Ownership

set_option autoImplicit false

/-!
# Calls that start on workers which were torn down

A call that finds its worker in the slot of its root looks again whether the worker is fit. A call
that has chosen its worker and waits for the disposal of another one does not look again. While it
waits the chosen worker may be passed on for disposal, by a teardown or by another call, and the
call starts on it all the same. This is the only way in which a call starts on such a worker.

## Main definitions

* `LintPool.Pool.Starts` — a call starts on a worker.
* `LintPool.Pool.Waits` — a call has chosen a worker and waits for the disposal of another one.
* `LintPool.Pool.LostWaiting` — the chosen worker is passed on while the call waits.

## Main results

* `LintPool.Pool.lostWaiting_of_waits` — a call that has chosen a worker which was passed on has
  lost it while it waited.
* `LintPool.Pool.starts_on_disposed_iff` — a call starts on a worker that was passed on if and only
  if the worker is lost while the call waits.
-/

namespace LintPool

namespace Pool

open Registry

variable {α : Type}

/-! ## Starting and waiting -/

/-- A call starts on a worker at a moment: from then on it works on this worker, and if it was under
way before, it did not work on any. -/
def Starts (p : Pool α) (m : Moment α) (task : TaskId) (w : WorkerId) : Prop :=
  (∃ c, (p.step m.down m.event).call? task = some (c, .working w)) ∧
    ((∃ c now, m.event = .begin task c now) ∨ ∀ c w', p.call? task ≠ some (c, .working w'))

/-- A call has chosen a worker and waits for the disposal of another one. -/
def Waits (p : Pool α) (task : TaskId) (w : WorkerId) : Prop :=
  ∃ c spare, p.call? task = some (c, .settling w spare)

/-- A run in the course of which the worker that a call has chosen is passed on for disposal, while
the call waits for the disposal of another one until the end. -/
def LostWaiting (p : Pool α) (ms : List (Moment α)) (task : TaskId) (w : WorkerId) : Prop :=
  ∃ n < ms.length, (∀ k, n ≤ k → k ≤ ms.length → (p.run (ms.take k)).Waits task w) ∧
    w ∉ (p.run (ms.take n)).disposed ∧ w ∈ (p.run (ms.take (n + 1))).disposed

/-! ## What one moment does -/

/-- What was passed on stays so. -/
lemma disposed_move {p p' : Pool α} {down : WorkerId → Bool} {e : Event α}
    (hm : Move down p e p') : p.disposed <+: p'.disposed := by
  cases hm with
  | begin => exact List.prefix_append _ _
  | created => exact List.prefix_append _ _
  | notCreated => exact List.prefix_append _ _
  | worked => exact List.prefix_append _ _
  | settled => exact List.prefix_append _ _
  | cleared => exact List.prefix_append _ _
  | abandoned => exact List.prefix_rfl
  | release => exact List.prefix_append _ _
  | drain => exact List.prefix_append _ _
  | workspaceActivity => exact List.prefix_rfl
  | fileActivity => exact List.prefix_rfl
  | idle => exact List.prefix_rfl

/-- What was passed on stays so through every run. -/
lemma disposed_run (p : Pool α) (ms : List (Moment α)) : p.disposed <+: (p.run ms).disposed :=
  run_invariant (P := fun p' => p.disposed <+: p'.disposed)
    (fun _ _ _ _ hp hm => hp.trans (disposed_move hm)) List.prefix_rfl ms

/-! ## Runs -/

/-- What holds of the first parts of a run from a length on holds of those of the run with one more
moment, if it holds of this run itself. -/
lemma take_concat {P : List (Moment α) → Prop} {ms : List (Moment α)} {m : Moment α} {n : Nat}
    (h : ∀ k, n ≤ k → k ≤ ms.length → P (ms.take k)) (hlast : P (ms ++ [m])) :
    ∀ k, n ≤ k → k ≤ (ms ++ [m]).length → P ((ms ++ [m]).take k) := by
  intro k hnk hk
  rcases Nat.lt_or_ge ms.length k with hlt | hle
  · have hk' : k = (ms ++ [m]).length := by simp at hk ⊢; omega
    rw [hk', List.take_length]
    exact hlast
  · rw [List.take_append_of_le_length hle]
    exact h k hnk hle

/-- **A wait that ends on a worker which was passed on** is one in which the worker was lost: when
it was chosen it was in a slot.

**Proof sketch.** Induction on the run, from its end. If the call waits only since the last moment,
the worker has just been chosen, so it is in a slot, and was not passed on. If it waited before,
then either the worker had been passed on already, and the shorter run has lost it, or it is
the last moment that passes it on. -/
lemma lostWaiting_of_waits (s : Settings) (task : TaskId) (w : WorkerId) (ms : List (Moment α))
    (hwait : ((start s).run ms).Waits task w) (hdis : w ∈ ((start s).run ms).disposed) :
    LostWaiting (start s) ms task w := by
  induction ms using List.reverseRecOn with
  | nil => cases hdis
  | append_singleton ms m ih =>
    have hlast : (start s).run (ms ++ [m]) = ((start s).run ms).step m.down m.event :=
      run_append _ _ _
    obtain ⟨lost, hb⟩ := balanced_run (α := α) s (ms ++ [m])
    have hlonger {n : Nat} (hwaits : ∀ k, n ≤ k → k ≤ ms.length →
        ((start s).run (ms.take k)).Waits task w) :=
      take_concat (P := fun ks => ((start s).run ks).Waits task w) hwaits hwait
    obtain ⟨c, spare, hcall⟩ := hwait
    rw [hlast] at hcall
    have hmove := move_step m.down ((start s).run ms) m.event
    rcases chosen_move hmove hcall rfl with hin | ⟨hbefore, -⟩ | ⟨hph, -, -⟩
    · rw [← hlast] at hin
      exact absurd hdis (hb.not_disposed hin)
    · by_cases hold : w ∈ ((start s).run ms).disposed
      · obtain ⟨n, hn, hwaits, hfresh, hgone⟩ := ih ⟨c, spare, hbefore⟩ hold
        refine ⟨n, by rw [List.length_append]; omega, hlonger hwaits, ?_, ?_⟩
        · rwa [List.take_append_of_le_length (Nat.le_of_lt hn)]
        · rwa [List.take_append_of_le_length hn]
      · have hwaits : ∀ k, ms.length ≤ k → k ≤ ms.length →
            ((start s).run (ms.take k)).Waits task w := fun k hnk hk => by
          rw [Nat.le_antisymm hk hnk, List.take_length]
          exact ⟨c, spare, hbefore⟩
        refine ⟨ms.length, by simp, hlonger hwaits, by simpa using hold, ?_⟩
        rwa [show ms.length + 1 = (ms ++ [m]).length by simp, List.take_length]
    · cases hph

/-- **When a call starts on a worker that was torn down**: in every run, a call starts on a worker
that was passed on for disposal if and only if it had chosen this worker, waited for the disposal of
another one, and the chosen one was passed on while it waited. A call that finds its worker in its
slot, or puts in the one that was created for it and has none to dispose of, never does. -/
theorem starts_on_disposed_iff (s : Settings) (ms : List (Moment α)) (m : Moment α)
    (task : TaskId) (w : WorkerId) (h : Starts ((start s).run ms) m task w) :
    w ∈ ((start s).run (ms ++ [m])).disposed ↔ LostWaiting (start s) ms task w := by
  have hlast : (start s).run (ms ++ [m]) = ((start s).run ms).step m.down m.event :=
    run_append _ _ _
  have hmove := move_step m.down ((start s).run ms) m.event
  constructor
  · intro hdis
    obtain ⟨lost, hb⟩ := balanced_run (α := α) s (ms ++ [m])
    obtain ⟨⟨c, hcall⟩, hnew⟩ := h
    rcases chosen_move hmove hcall rfl with hin | ⟨hbefore, hno⟩ | ⟨-, ⟨spare, hwait⟩, hsame⟩
    · rw [← hlast] at hin
      exact absurd hdis (hb.not_disposed hin)
    · rcases hnew with ⟨c', now, he⟩ | hidle
      · exact absurd he (hno c' now)
      · exact absurd hbefore (hidle c w)
    · rw [hlast, hsame] at hdis
      exact lostWaiting_of_waits s task w ms ⟨c, spare, hwait⟩ hdis
  · rintro ⟨n, hn, -, -, hgone⟩
    have hsplit : (start s).run (ms ++ [m]) =
        ((start s).run (ms.take (n + 1))).run (ms.drop (n + 1) ++ [m]) := by
      rw [← run_append, ← List.append_assoc, List.take_append_drop]
    rw [hsplit]
    exact (disposed_run _ _).subset hgone

/-- The call that lost the race starts on the worker of the other one. -/
lemma starts_race :
    Starts ((start .standard).run (raceAndDrain.take 5)) (.calm (.disposed 1)) 1 0 := by
  refine ⟨⟨ownRoot, rfl⟩, .inr fun c w' hcall => ?_⟩
  cases hcall

/-- The call that lost the race loses the worker it has chosen to the teardown. -/
theorem starts_on_disposed_iff_race :
    Starts ((start .standard).run (raceAndDrain.take 5)) (.calm (.disposed 1)) 1 0 ∧
      LostWaiting (start .standard) (raceAndDrain.take 5) 1 0 :=
  ⟨starts_race, (starts_on_disposed_iff .standard _ _ 1 0 starts_race).1 (by decide)⟩

/-- It is not so that calls only start on workers that have not been passed on for disposal. -/
theorem not_starts_on_undisposed :
    ¬ ∀ (s : Settings) (ms : List (Moment Unit)) (m : Moment Unit) (task : TaskId) (w : WorkerId),
      (start s).Orderly (ms ++ [m]) → Starts ((start s).run ms) m task w →
        w ∉ ((start s).run ms).disposed := fun hall =>
  hall .standard (raceAndDrain.take 5) _ 1 0 (by decide) starts_race (by decide)

end Pool

end LintPool
