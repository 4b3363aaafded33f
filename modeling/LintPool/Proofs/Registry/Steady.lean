import LintPool.Proofs.Registry.Series

set_option autoImplicit false

/-!
# Calls in a world that does what it is asked

The world notes down what it is asked. As long as every creation yields a worker, no work crashes
and no worker goes down of itself, a call comes to one of three things: it works on the worker in
the slot of its root, it has that worker disposed of and another one created, or it has the first
one created.

## Main definitions

* `LintPool.Note`, `LintPool.World.Steady` — a world that takes notes and does what it is asked.
* `LintPool.Served` — what is noted for a call, and the worker that it runs on.

## Main results

* `LintPool.Registry.served_run` — a call is served by the slot of its root.
-/

namespace LintPool

variable {σ α : Type}

/-! ## Worlds that take notes -/

/-- What a world notes down. -/
inductive Note where
  /-- A worker was created for a context. -/
  | created (worker : WorkerId) (context : WorkerContext)
  /-- Work was done on a worker. -/
  | worked (worker : WorkerId)
  /-- A worker was disposed of. -/
  | disposed (worker : WorkerId)
  deriving Repr, DecidableEq

namespace Note

/-- The worker that a note is about. -/
def worker : Note → WorkerId
  | .created w _ => w
  | .worked w => w
  | .disposed w => w

/-- Whether a note tells of a creation. -/
def isCreation : Note → Bool
  | .created .. => true
  | _ => false

end Note

/-- A worker that no note is about. -/
def Unnamed (notes : List Note) (w : WorkerId) : Prop :=
  ∀ n ∈ notes, n.worker ≠ w

/-- A world that notes down what it is asked, whose creations all yield new workers, and in which a
worker has gone down just if it was disposed of. -/
structure World.Steady (world : World σ) (journal : σ → List Note) : Prop where
  /-- A creation yields a new worker. -/
  create : ∀ c s, ∃ w, (world.create c s).1 = .ok w ∧ Unnamed (journal s) w ∧
    journal (world.create c s).2 = journal s ++ [.created w c]
  /-- A disposal is noted. -/
  dispose : ∀ w s, journal (world.dispose w s) = journal s ++ [.disposed w]
  /-- Workers go down by being disposed of. -/
  down : ∀ s w, world.down s w = true ↔ .disposed w ∈ journal s

/-- Work that is noted down and does not crash. -/
def SteadyWork (journal : σ → List Note) (work : Registry.Work σ α) : Prop :=
  ∀ w s, journal (work w s).2 = journal s ++ [.worked w] ∧
    ∀ e, (work w s).1 = .error e → e.isCrash = false

/-! ## One call -/

/-- Configurations that are the same are the same as the same. -/
lemma samePnp_congr {p q : Option PnpConfiguration} (h : samePnp p q = true)
    (x : Option PnpConfiguration) : samePnp p x = samePnp q x := by
  cases p with
  | none =>
    cases q with
    | none => rfl
    | some q => cases h
  | some p =>
    cases q with
    | none => cases h
    | some q =>
      cases x with
      | none => rfl
      | some x =>
        obtain ⟨hregister, hloader⟩ : p.Same q := of_decide_eq_true h
        refine decide_eq_decide.2 ?_
        rw [PnpConfiguration.Same, PnpConfiguration.Same, hregister, hloader]

namespace Slots

/-- Of two slots that are set for one root the second one counts. -/
lemma set_set (root : Location) (s s' : Slot) (slots : Slots) :
    (slots.set root s).set root s' = slots.set root s' := by
  induction slots with
  | nil => simp [set]
  | cons x rest ih =>
    obtain ⟨r, s''⟩ := x
    by_cases h : r = root
    · simp [set, h]
    · simp [set, h, ih]

end Slots

/-- A worker was started for an environment like the one of a context. -/
def LiveWorker.Fits (live : LiveWorker) (c : WorkerContext) : Prop :=
  live.environmentKey = c.environmentKey ∧ samePnp live.pnp c.pnp = true

instance (live : LiveWorker) (c : WorkerContext) : Decidable (live.Fits c) :=
  inferInstanceAs (Decidable (_ ∧ _))

/-- What is noted for a call whose root has such a slot, and the worker that it runs on. -/
inductive Served (before : List Note) (c : WorkerContext) :
    Option Slot → List Note → LiveWorker → Prop where
  /-- The root has no slot: a worker is created. -/
  | first {w : WorkerId} (new : Unnamed before w) :
    Served before c none [.created w c, .worked w] (.ofContext w c)
  /-- The worker of the root is fit. -/
  | again {slot : Slot} {live : LiveWorker} (holds : slot.worker = some live)
    (fits : live.Fits c) : Served before c (some slot) [.worked live.id] live
  /-- The worker of the root is not fit: it is disposed of, and another one is created. -/
  | anew {slot : Slot} {live : LiveWorker} {w : WorkerId} (holds : slot.worker = some live)
    (unfit : ¬ live.Fits c) (new : Unnamed (before ++ [.disposed live.id]) w) :
    Served before c (some slot) [.disposed live.id, .created w c, .worked w] (.ofContext w c)

namespace Registry

variable {world : World σ} {journal : σ → List Note} {work : Work σ α} {c : WorkerContext}
  {r : Registry} {s : σ}

/-- The slot that a call leaves behind: that of its root, claimed by its folder, with a worker. -/
def slotWith (r : Registry) (c : WorkerContext) (live : LiveWorker) : Slot :=
  { (r.slotFor c).claim c.workspaceFolder.components with worker := some live }

/-- A slot that has been set is found. -/
@[simp] lemma slotFor_setSlot (r : Registry) (c : WorkerContext) (s : Slot) :
    (r.setSlot c s).slotFor c = s := by
  simp [slotFor, setSlot, Slots.at?_set]

/-- Of two slots that are set for one root the second stays. -/
@[simp] lemma setSlot_setSlot (r : Registry) (c : WorkerContext) (s s' : Slot) :
    (r.setSlot c s).setSlot c s' = r.setSlot c s' := by
  simp [setSlot, Slots.set_set]

/-- A claim leaves the worker. -/
lemma worker_claim (s : Slot) (folder : Location) : (s.claim folder).worker = s.worker := by
  unfold Slot.claim
  split <;> rfl

/-- A call for a root that never crashed is let through. -/
lemma enter_of_fresh (h : (r.slotFor c).health = .fresh) (now : Instant) :
    r.enter c now = (.ok (), r.setSlot c ((r.slotFor c).claim c.workspaceFolder.components)) := by
  have hconsider : ((r.slotFor c).claim c.workspaceFolder.components).health.consider r.policy
      c.workerRoot now = (.ok (), ((r.slotFor c).claim c.workspaceFolder.components).health) := by
    rw [health_claim, h]
    rfl
  simp only [enter, hconsider]

/-- Work that does not crash leaves the slot of a root that never crashed as it is. -/
lemma proceed_working_of_fresh (hwork : SteadyWork journal work) (slot : Slot)
    (hfresh : slot.health = .fresh) (w : WorkerId) :
    proceed world work c (.working w) (r.setSlot c slot) s =
      ((work w s).1, r.setSlot c slot, (work w s).2) := by
  have hslot : { slot with health := slot.health.recordSuccess } = slot := by
    rw [hfresh, Health.recordSuccess, ← hfresh]
  have hafter : (r.setSlot c slot).afterWork c w (work w s).1 =
      (.finished (work w s).1, r.setSlot c slot) := by
    rcases hdone : (work w s).1 with e | a
    · have hcalm := (hwork w s).2 e hdone
      simp [afterWork, Registry.fail, recordFailure, hcalm]
    · simp [afterWork, recordSuccess, setSlot, Slots.at?_set, Slots.set_set, hslot]
  rw [proceed_working, hafter, proceed_finished]

/-- A call that waits for a creation, its root being empty, runs on the worker that is created. -/
lemma proceed_creating_of_fresh (hworld : world.Steady journal) (hwork : SteadyWork journal work)
    (slot : Slot) (hfresh : slot.health = .fresh) (hempty : slot.worker = none) :
    ∃ w outcome s', proceed world work c .creating (r.setSlot c slot) s =
        (outcome, r.setSlot c { slot with worker := some (.ofContext w c) }, s') ∧
      Unnamed (journal s) w ∧ journal s' = journal s ++ [.created w c, .worked w] := by
  obtain ⟨w, hcreated, hnew, hjournal⟩ := hworld.create c s
  have hafter : (r.setSlot c slot).afterCreation (world.down (world.create c s).2) c
      (world.create c s).1 =
        ((.working w : Phase α), r.setSlot c { slot with worker := some (.ofContext w c) }) := by
    rw [hcreated]
    simp [afterCreation, install, hempty]
  refine ⟨w, (work w (world.create c s).2).1, (work w (world.create c s).2).2, ?_, hnew, ?_⟩
  · rw [proceed_creating, hafter]
    exact proceed_working_of_fresh hwork { slot with worker := some (.ofContext w c) } hfresh w
  · rw [(hwork w _).1, hjournal, List.append_assoc]
    rfl

/-- **A call is served by the slot of its root**, if the root never crashed and the worker in the
slot is up. -/
theorem served_run (hworld : world.Steady journal) (hwork : SteadyWork journal work)
    (hhealth : ∀ slot, r.slots.at? c.workerRoot.components = some slot → slot.health = .fresh)
    (hup : ∀ slot, r.slots.at? c.workerRoot.components = some slot →
      ∃ live, slot.worker = some live ∧ .disposed live.id ∉ journal s) :
    ∃ outcome notes live s',
      run world work c r s = (outcome, r.setSlot c (r.slotWith c live), s') ∧
      Served (journal s) c (r.slots.at? c.workerRoot.components) notes live ∧
      journal s' = journal s ++ notes := by
  have hfresh : (r.slotFor c).health = .fresh := by
    unfold slotFor
    cases hslot : r.slots.at? c.workerRoot.components with
    | none => rfl
    | some slot => exact hhealth slot hslot
  have hclaimed : ((r.slotFor c).claim c.workspaceFolder.components).health = .fresh :=
    (health_claim _ _).trans hfresh
  rw [run, begin, enter_of_fresh hfresh]
  simp only [lookup, slotFor_setSlot, worker_claim, setSlot_setSlot]
  cases hslot : r.slots.at? c.workerRoot.components with
  | none =>
    have hempty : (r.slotFor c).worker = none := by simp [slotFor, hslot, Slot.ofFolder]
    obtain ⟨w, outcome, s', hrun, hnew, hjournal⟩ := proceed_creating_of_fresh (c := c) (r := r)
      (s := s) hworld hwork _ hclaimed ((worker_claim _ _).trans hempty)
    simp only [hempty]
    exact ⟨outcome, _, _, s', hrun, .first hnew, hjournal⟩
  | some slot =>
    obtain ⟨live, hholds, hnot⟩ := hup slot hslot
    have hlive : (r.slotFor c).worker = some live := by simp [slotFor, hslot, hholds]
    have hdown : world.down s live.id = false := by
      rw [Bool.eq_false_iff]
      exact fun hdown => hnot ((hworld.down s live.id).1 hdown)
    have hserves : live.serves (world.down s) c = decide (live.Fits c) := by
      rw [Bool.eq_iff_iff, decide_eq_true_iff]
      simp [LiveWorker.serves, LiveWorker.Fits, hdown]
    simp only [hlive, hserves]
    by_cases hfits : live.Fits c
    · simp only [hfits, decide_true, if_true]
      have hkept : (r.slotFor c).claim c.workspaceFolder.components = r.slotWith c live := by
        unfold slotWith
        rw [← hlive, ← worker_claim (r.slotFor c) c.workspaceFolder.components]
      refine ⟨(work live.id s).1, _, live, _, ?_, .again hholds hfits, (hwork live.id s).1⟩
      rw [hkept] at hclaimed ⊢
      exact proceed_working_of_fresh hwork _ hclaimed live.id
    · simp only [hfits, decide_false, Bool.false_eq_true, if_false]
      obtain ⟨w, outcome, s', hrun, hnew, hjournal⟩ := proceed_creating_of_fresh (c := c) (r := r)
        (s := world.dispose live.id s) hworld hwork
        { (r.slotFor c).claim c.workspaceFolder.components with worker := none } hclaimed rfl
      rw [hworld.dispose] at hnew hjournal
      refine ⟨outcome, _, .ofContext w c, s', ?_, .anew hholds hfits hnew, ?_⟩
      · rw [proceed_retiring]
        exact hrun
      · rw [hjournal, List.append_assoc]
        rfl

end Registry

end LintPool
