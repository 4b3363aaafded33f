import LintPool.Proofs.Pool.Runs
import LintPool.Proofs.Registry.Filing

set_option autoImplicit false

/-!
# Which worker a call is handed

A call may be handed a worker that it found, one that was created for it, or one that another call
was faster to put in; and between the steps of a call the slot of its root may be cleared, filled
again or forgotten by others. Whichever way it comes about, the worker was created for a context
like that of the call, and it is none that had crashed before the call looked for one.

## Main definitions

* `LintPool.Pool.Kept` — workers are in the slots of their roots, and calls have chosen workers made
  for contexts like theirs.
* `LintPool.Pool.Gone` — a worker is in no slot, and will not be again.
* `LintPool.Pool.Avoids` — what goes by a number has not chosen a worker.

## Main results

* `LintPool.Pool.Kept.run` — the first holds after every run.
* `LintPool.Pool.chosen_move` — a call chooses a worker that is in a slot, or has chosen it before.
* `LintPool.Pool.Gone.move`, `LintPool.Pool.Avoids.move` — a worker that is gone is chosen by none
  that has not chosen it yet.
* `LintPool.Pool.handed_worker_is_own_kind` — which worker a call is handed.
-/

namespace LintPool

namespace Pool

open Registry

variable {α : Type}

/-- Workers are in the slots of the roots they were created for, and each call has chosen, if any, a
worker that was created for a context like its own. -/
structure Kept (p : Pool α) : Prop where
  /-- Workers are in the slots of their roots. -/
  filed : p.registry.Filed p.created
  /-- Calls have chosen workers made for contexts like theirs. -/
  madeFor : ∀ x ∈ p.calls, ∀ w, x.2.2.chosen? = some w → MadeFor p.created w x.2.1

/-! ## What every run keeps -/

namespace Kept

variable {p : Pool α}

/-- A call comes to a phase. -/
lemma setCall (h : p.Kept) (task : TaskId) {c : WorkerContext} {next : Phase α × Registry}
    (hfiled : next.2.Filed p.created)
    (hmade : ∀ w, next.1.chosen? = some w → MadeFor p.created w c) :
    (p.setCall task c next).Kept := by
  refine ⟨hfiled, fun x hx w hw => ?_⟩
  simp only [Pool.setCall, List.mem_append, List.mem_singleton] at hx
  rcases hx with hx | rfl
  · exact h.madeFor x (List.mem_of_mem_filter hx) w hw
  · exact hmade w hw

/-- A task is dropped. -/
lemma drop (h : p.Kept) (task : TaskId) : (p.drop task).Kept :=
  ⟨h.filed, fun x hx => h.madeFor x (List.mem_of_mem_filter hx)⟩

/-- A teardown comes to some workers. -/
lemma setTeardown (h : p.Kept) (task : TaskId) (ws : List WorkerId) :
    (p.setTeardown task ws).Kept :=
  ⟨h.filed, (h.drop task).madeFor⟩

/-- The registry changes. -/
lemma setRegistry (h : p.Kept) {r : Registry} (hr : r.Filed p.created) :
    Kept { p with registry := r } :=
  ⟨hr, h.madeFor⟩

/-- A worker is created. -/
lemma create (h : p.Kept) (c : WorkerContext) : Kept { p with created := p.created ++ [c] } :=
  ⟨h.filed.append [c], fun x hx w hw => (h.madeFor x hx w hw).append [c]⟩

/-- Every move. -/
lemma move (h : p.Kept) {down : WorkerId → Bool} {e : Event α} {p' : Pool α}
    (hm : Move down p e p') : p'.Kept := by
  have hnone : ∀ {c : WorkerContext} {ph : Phase α}, ph.chosen? = none →
      ∀ w, ph.chosen? = some w → MadeFor p.created w c := by
    intro c ph hph w hw
    rw [hph] at hw
    cases hw
  cases hm with
  | begin task c now =>
    exact h.setCall task (h.filed.begin down c now) fun w hw => h.filed.madeFor_begin hw
  | created task c =>
    exact (h.create c).setCall task (h.filed.afterCreation down c) fun w hw =>
      h.filed.madeFor_afterCreation hw
  | notCreated task c e => exact h.setCall task (h.filed.fail c none e) (hnone (chosen_fail ..))
  | worked task c w outcome =>
    exact h.setCall task (h.filed.afterWork c w outcome) (hnone (chosen_afterWork ..))
  | settled task c ph hcall =>
    refine h.setCall task h.filed fun w hw => ?_
    rw [Phase.chosen_afterDisposal] at hw
    exact h.madeFor _ (mem_calls_of_call? hcall) w hw
  | cleared => exact h.setTeardown _ _
  | abandoned => exact h.drop _
  | release task folder => exact (h.setRegistry (h.filed.release folder)).setTeardown _ _
  | drain => exact (h.setRegistry Filed.drain).setTeardown _ _
  | workspaceActivity folder => exact h.setRegistry (h.filed.resetWhere (·.belongsTo folder))
  | fileActivity path => exact h.setRegistry (h.filed.resetWhere (·.contains path))
  | idle => exact h

/-- At the start. -/
lemma start (s : Settings) : (Pool.start s : Pool α).Kept :=
  ⟨Filed.ofSettings s, fun _ hx => absurd hx List.not_mem_nil⟩

/-- After every run. -/
lemma run (h : p.Kept) (ms : List (Moment α)) : (p.run ms).Kept :=
  run_invariant (fun _ _ _ _ hp hm => hp.move hm) h ms

end Kept

/-! ## Workers that are in no slot any more -/

/-- A worker was created, and is in no slot. -/
structure Gone (p : Pool α) (w : WorkerId) : Prop where
  /-- The worker was created. -/
  lt : w < p.created.length
  /-- It is in no slot. -/
  not_mem : w ∉ p.registry.installed

/-- What goes by a number, if anything, has not chosen a worker. -/
def Avoids (p : Pool α) (task : TaskId) (w : WorkerId) : Prop :=
  ∀ c ph, p.call? task = some (c, ph) → ph.chosen? ≠ some w

namespace Gone

variable {p : Pool α} {w : WorkerId}

/-- **Gone is gone**: only a worker that was just created is put into a slot. -/
lemma move (h : p.Gone w) {down : WorkerId → Bool} {e : Event α} {p' : Pool α}
    (hm : Move down p e p') : p'.Gone w := by
  -- what is installed after a step was installed before it, or was handed to the step
  have hkeep : ∀ {r : Registry} {out : List WorkerId},
      (r.installed ++ out).Perm p.registry.installed → w ∉ r.installed := fun hp hw =>
    h.not_mem (hp.mem_iff.1 (List.mem_append_left _ hw))
  cases hm with
  | begin task c now => exact ⟨h.lt, hkeep (installed_begin ..)⟩
  | created task c =>
    refine ⟨by simpa [setCall, Pool.drop] using Nat.lt_succ_of_lt h.lt, fun hw => ?_⟩
    have hp := installed_afterCreation (α := α) p.registry down c p.created.length
    have hmem := hp.mem_iff.1 (List.mem_append_left _ hw)
    rcases List.mem_append.1 hmem with hmem | hmem
    · exact h.not_mem hmem
    · exact (Nat.ne_of_lt h.lt) (List.mem_singleton.1 hmem)
  | notCreated task c e => exact ⟨h.lt, hkeep (installed_fail ..)⟩
  | worked task c w' outcome => exact ⟨h.lt, hkeep (installed_afterWork ..)⟩
  | settled => exact ⟨h.lt, h.not_mem⟩
  | cleared => exact ⟨h.lt, h.not_mem⟩
  | abandoned => exact ⟨h.lt, h.not_mem⟩
  | release task folder => exact ⟨h.lt, hkeep (installed_release ..)⟩
  | drain => exact ⟨h.lt, List.not_mem_nil⟩
  | workspaceActivity folder =>
    exact ⟨h.lt, (installed_resetWhere p.registry (·.belongsTo folder)).symm ▸ h.not_mem⟩
  | fileActivity path =>
    exact ⟨h.lt, (installed_resetWhere p.registry (·.contains path)).symm ▸ h.not_mem⟩
  | idle => exact h

/-- Gone is gone through every run. -/
lemma run (h : p.Gone w) (ms : List (Moment α)) : (p.run ms).Gone w :=
  run_invariant (P := (·.Gone w)) (fun _ _ _ _ hp hm => hp.move hm) h ms

end Gone

/-! ## Calls that have chosen a worker -/

/-- **Where a chosen worker comes from**: it is in a slot when it is chosen. Otherwise the call had
chosen it before, and goes on as it was, or starts after it has waited. -/
lemma chosen_move {p p' : Pool α} {down : WorkerId → Bool} {e : Event α} (hm : Move down p e p')
    {task : TaskId} {c : WorkerContext} {ph : Phase α} {w : WorkerId}
    (hcall : p'.call? task = some (c, ph)) (hw : ph.chosen? = some w) :
    w ∈ p'.registry.installed ∨
      (p.call? task = some (c, ph) ∧ ∀ c' now, e ≠ .begin task c' now) ∨
      (ph = .working w ∧ (∃ spare, p.call? task = some (c, .settling w spare)) ∧
        p'.disposed = p.disposed) := by
  by_cases ht : e.task? = some task
  · cases hm with
    | begin task' c' now =>
      cases ht
      rw [call?_setCall_self] at hcall
      cases hcall
      exact .inl (chosen_begin hw).2
    | created task' c' hcall' =>
      cases ht
      rw [call?_setCall_self] at hcall
      cases hcall
      exact .inl (chosen_afterCreation hw).2
    | notCreated task' c' e hcall' =>
      cases ht
      rw [call?_setCall_self] at hcall
      cases hcall
      exact absurd ((chosen_fail p.registry c none e).symm.trans hw) (by simp)
    | worked task' c' w' outcome hcall' =>
      cases ht
      rw [call?_setCall_self] at hcall
      cases hcall
      rw [chosen_afterWork] at hw
      cases hw
    | settled task' c' ph' hcall' hph =>
      cases ht
      rw [call?_setCall_self] at hcall
      cases hcall
      cases ph' with
      | settling chosen spare =>
        cases hw
        exact .inr (.inr ⟨rfl, ⟨spare, hcall'⟩, List.append_nil _⟩)
      | retiring | evicting => cases hw
      | creating | working | finished => cases hph
    | cleared | abandoned | release | drain =>
      cases ht
      exact absurd ((call?_drop_self ..).symm.trans hcall) (by simp)
    | workspaceActivity | fileActivity => cases ht
    | idle e hno =>
      refine .inr (.inl ⟨hcall, fun c' now he => hno ?_⟩)
      rw [he]
      trivial
  · rw [call?_move hm ht] at hcall
    refine .inr (.inl ⟨hcall, fun c' now he => ht ?_⟩)
    rw [he]
    rfl

namespace Avoids

variable {p : Pool α} {task : TaskId} {w : WorkerId}

/-- A call that begins while a worker is gone does not choose it, whatever went by its number
before. -/
lemma begin (hgone : p.Gone w) (down : WorkerId → Bool) (task : TaskId) (c : WorkerContext)
    (now : Instant) : (p.setCall task c (p.registry.begin down c now)).Avoids task w := by
  intro c' ph hcall hw
  rw [call?_setCall_self] at hcall
  cases hcall
  exact hgone.not_mem (chosen_begin hw).1

/-- **A worker that is gone is not chosen** by a call that has not chosen it yet, and by no other
call that goes by the number later. -/
lemma move (h : p.Avoids task w) (hgone : p.Gone w) {down : WorkerId → Bool} {e : Event α}
    {p' : Pool α} (hm : Move down p e p') : p'.Avoids task w := by
  intro c ph hcall hw
  rcases chosen_move hm hcall hw with hin | ⟨hbefore, -⟩ | ⟨-, ⟨spare, hbefore⟩, -⟩
  · exact (hgone.move hm).not_mem hin
  · exact h c ph hbefore hw
  · exact h c _ hbefore rfl

/-- A worker that is gone is not chosen through a whole run. -/
lemma run (h : p.Avoids task w) (hgone : p.Gone w) (ms : List (Moment α)) :
    (p.run ms).Avoids task w :=
  (run_invariant (P := fun p => p.Gone w ∧ p.Avoids task w)
    (fun _ _ _ _ hp hm => ⟨hp.1.move hm, hp.2.move hp.1 hm⟩) ⟨hgone, h⟩ ms).2

end Avoids

/-- Once a crash of a worker is recorded, the worker is gone. -/
lemma Kept.gone_of_crash {p : Pool α} (h : p.Kept) {task : TaskId} {c : WorkerContext}
    {w : WorkerId} {e : WorkerError} (hcall : p.call? task = some (c, .working w))
    (he : e.isCrash = true) (down : WorkerId → Bool) :
    (p.step down (.worked task (.error e))).Gone w := by
  have hmade : MadeFor p.created w c := h.madeFor _ (mem_calls_of_call? hcall) w rfl
  have hstep : p.step down (.worked task (.error e)) =
      p.setCall task c (p.registry.fail c (some w) e) := by simp only [step, hcall]; rfl
  rw [hstep]
  have hnot := h.filed.not_mem_installed_fail (α := α) hmade he
  obtain ⟨c', hc', -⟩ := hmade
  exact ⟨(List.getElem?_eq_some_iff.1 hc').1, hnot⟩

/-- **A call is handed a worker of its own kind**: whatever has come about, the worker that a call
works on was created for its root, its environment key and its Plug'n'Play configuration; and once a
crash of a worker is recorded, no call that looks for a worker after that is handed this one,
whatever comes about before and while it looks. -/
theorem handed_worker_is_own_kind (s : Settings) :
    (∀ (ms : List (Moment α)) (task : TaskId) (c : WorkerContext) (w : WorkerId),
      ((start s).run ms).call? task = some (c, .working w) →
        MadeFor ((start s).run ms).created w c) ∧
    (∀ (before between after : List (Moment α)) (down down' : WorkerId → Bool)
      (task task' : TaskId) (c c' : WorkerContext) (w : WorkerId) (e : WorkerError) (now : Instant),
      ((start s).run before).call? task = some (c, .working w) → e.isCrash = true →
        ∀ (c'' : WorkerContext) (w' : WorkerId),
          ((start s).run (before ++ ⟨down, .worked task (.error e)⟩ :: between ++
            ⟨down', .begin task' c' now⟩ :: after)).call? task' = some (c'', .working w') →
            w' ≠ w) := by
  refine ⟨fun ms task c w hcall => ?_, ?_⟩
  · exact ((Kept.start s).run ms).madeFor _ (mem_calls_of_call? hcall) w rfl
  · intro before between after down down' task task' c c' w e now hcall he c'' w' hcall'
    have hgone :
        (((start s).run before).step down (.worked task (.error e)) |>.run between).Gone w :=
      (((Kept.start s).run before).gone_of_crash hcall he down).run between
    rw [run_append, run_append, run_cons, run_cons] at hcall'
    have hlook := Avoids.begin hgone down' task' c' now
    have hafter := hlook.run (hgone.move (move_step down' _ (.begin task' c' now))) after
    rintro rfl
    exact hafter _ _ hcall' rfl

/-- After the first worker of a root has crashed, the next call works on another one. -/
theorem handed_worker_is_own_kind_crash :
    ((start .standard).run [.calm (.begin 0 ownRoot ⟨0⟩), .calm (.created 0),
      .calm (.worked 0 (.error (.crashed ⟨"/w"⟩ ""))), .calm (.begin 1 ownRoot ⟨1⟩),
      .calm (.created 1)] : Pool Unit).call? 1 = some (ownRoot, .working 1) ∧
      (1 : WorkerId) ≠ 0 :=
  ⟨rfl, (handed_worker_is_own_kind (α := Unit) .standard).2
    [.calm (.begin 0 ownRoot ⟨0⟩), .calm (.created 0)] [] [.calm (.created 1)]
    (fun _ => false) (fun _ => false) 0 1 ownRoot ownRoot 0 (.crashed ⟨"/w"⟩ "") ⟨1⟩
    rfl rfl ownRoot 1 rfl⟩

end Pool

end LintPool
