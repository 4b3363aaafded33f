import Mathlib.Data.List.MinMax
import LintPool.Proofs.Registry.Claims
import LintPool.Proofs.Registry.Steady

set_option autoImplicit false

/-!
# When a worker is used again

Calls run one after the other, each from beginning to end; between them folders are torn down,
there is activity, and time passes. In a world that does what it is asked, what is noted for a call
follows from the last call for its root: it works on the worker of that call if its environment is
the same, else that worker is disposed of and a new one created.

## Main definitions

* `LintPool.Registry.Act`, `LintPool.Registry.Course` — what may happen, and how far a run has come.
* `LintPool.Registry.Course.Calm` — the slots hold the workers of the last calls.
* `LintPool.Registry.Course.Accounted` — what is noted for a call, in terms of the last one.

## Main results

* `LintPool.Registry.Course.Calm.after` — slots hold the workers of the last calls, whatever happens
  next.
* `LintPool.Registry.Course.reuse_exact` — a worker is created just for the first call of a root,
  and for one whose environment is not that of the call before.
-/

namespace LintPool

namespace Registry

variable {σ α : Type} {world : World σ} {journal : σ → List Note} {work : Work σ α}
  {c : WorkerContext}

/-! ## Runs -/

/-- What may happen in a run. -/
inductive Act (σ α : Type) where
  /-- A call, from beginning to end. -/
  | call (context : WorkerContext) (work : Work σ α)
  /-- A folder is torn down. -/
  | release (folder : Location)
  /-- Everything is torn down. -/
  | drain
  /-- There was activity in a folder. -/
  | workspaceActivity (folder : Location)
  /-- There was activity at a path. -/
  | fileActivity (path : Location)
  /-- The world goes its own way. -/
  | pass (change : σ → σ)

namespace Act

/-- What becomes of the registry and the world. -/
def perform (world : World σ) (r : Registry) (s : σ) : Act σ α → Registry × σ
  | .call c work => (run world work c r s).2
  | .release folder => ((r.release folder).2, tearDown world (r.release folder).1 s)
  | .drain => (r.drain.2, tearDown world r.drain.1 s)
  | .workspaceActivity folder => ((r.workspaceActivity folder).2, s)
  | .fileActivity path => ((r.fileActivity path).2, s)
  | .pass change => (r, change s)

/-- The work of a call does not crash, and what the world does on its own touches no worker. -/
def Steady (journal : σ → List Note) : Act σ α → Prop
  | .call _ work => SteadyWork journal work
  | .pass change => ∀ s, journal (change s) = journal s
  | _ => True

end Act

/-- A call that has ended. -/
structure EndedCall where
  /-- Its context. -/
  context : WorkerContext
  /-- What was noted for it. -/
  notes : List Note
  deriving Repr, DecidableEq

/-- The environment of a call is that of a context: it has the same key and the same Plug'n'Play
configuration. -/
def EndedCall.Alike (x : EndedCall) (c : WorkerContext) : Prop :=
  x.context.environmentKey = c.environmentKey ∧ samePnp x.context.pnp c.pnp = true

instance (x : EndedCall) (c : WorkerContext) : Decidable (x.Alike c) :=
  inferInstanceAs (Decidable (_ ∧ _))

/-- How far a run has come. -/
structure Course (σ : Type) where
  /-- The registry. -/
  registry : Registry
  /-- The state of the world. -/
  state : σ
  /-- The last call for each root since the root has had a slot. -/
  previous : Location → Option EndedCall

namespace Course

/-- The beginning of a run. -/
def start (settings : Settings) (s : σ) : Course σ := ⟨.ofSettings settings, s, fun _ => none⟩

/-- How far a run has come when one thing more has happened. -/
def after (world : World σ) (journal : σ → List Note) (k : Course σ) (x : Act σ α) : Course σ :=
  let (r, s) := x.perform world k.registry k.state
  { registry := r
    state := s
    previous := fun root =>
      if (r.slots.at? root).isNone then none
      else match x with
        | .call c _ =>
          if c.workerRoot.components = root then
            some ⟨c, (journal s).drop (journal k.state).length⟩
          else k.previous root
        | _ => k.previous root }

/-- How far a run has come after what has happened in order. -/
def run (world : World σ) (journal : σ → List Note) (k : Course σ) (acts : List (Act σ α)) :
    Course σ :=
  acts.foldl (after world journal) k

/-- The worker in the slot of a root. -/
def installed? (k : Course σ) (root : Location) : Option WorkerId :=
  (k.registry.slots.at? root).bind (·.workerId?)

/-! ## What slots hold -/

/-- A slot holds the worker that the last call for its root ran on, fit for it and up. -/
structure Stands (notes : List Note) (slot : Slot) (last : EndedCall) (live : LiveWorker) :
    Prop where
  /-- The root has not crashed. -/
  fresh : slot.health = .fresh
  /-- The worker is in the slot. -/
  holds : slot.worker = some live
  /-- It was started for an environment like that of the last call. -/
  fits : live.Fits last.context
  /-- The last call ran on it. -/
  worked : last.notes.getLast? = some (.worked live.id)
  /-- It was not disposed of. -/
  up : .disposed live.id ∉ notes
  /-- It is known. -/
  named : ¬ Unnamed notes live.id

/-- What a slot holds does not change as long as the worker is not disposed of. -/
lemma Stands.mono {notes more : List Note} {slot slot' : Slot} {last : EndedCall}
    {live : LiveWorker} (h : Stands notes slot last live) (hworker : slot'.worker = slot.worker)
    (hhealth : slot'.health = slot.health) (hup : .disposed live.id ∉ more) :
    Stands (notes ++ more) slot' last live where
  fresh := hhealth.trans h.fresh
  holds := hworker.trans h.holds
  fits := h.fits
  worked := h.worked
  up := fun hmem => (List.mem_append.1 hmem).elim h.up hup
  named := fun hun => h.named fun n hn => hun n (List.mem_append_left _ hn)

/-- The slot that a call leaves behind holds the worker that the call ran on. -/
lemma stands_of_served {before notes : List Note} {slot? : Option Slot} {slot' : Slot}
    {live : LiveWorker} (h : Served before c slot? notes live)
    (hup : ∀ slot live', slot? = some slot → slot.worker = some live' →
      .disposed live'.id ∉ before ∧ ¬ Unnamed before live'.id)
    (hfresh : slot'.health = .fresh) (hholds : slot'.worker = some live) :
    Stands (before ++ notes) slot' ⟨c, notes⟩ live := by
  cases h with
  | @first w new =>
    have hup : .disposed w ∉ before := fun hmem => new _ hmem rfl
    refine ⟨hfresh, hholds, ⟨rfl, samePnp_refl _⟩, rfl, ?_, fun hun => ?_⟩
    · simpa [LiveWorker.ofContext] using hup
    · exact hun (.created w c) (by simp) rfl
  | @again slot live holds fits =>
    obtain ⟨hup, hnamed⟩ := hup slot live rfl holds
    refine ⟨hfresh, hholds, fits, rfl, ?_, fun hun => ?_⟩
    · simpa using hup
    · exact hnamed fun n hn => hun n (List.mem_append_left _ hn)
  | @anew slot old w holds unfit new =>
    have hup : .disposed w ∉ before := fun hmem => new _ (List.mem_append_left _ hmem) rfl
    have hother : w ≠ old.id := fun heq => new (.disposed old.id) (by simp) heq.symm
    refine ⟨hfresh, hholds, ⟨rfl, samePnp_refl _⟩, rfl, ?_, fun hun => ?_⟩
    · simpa [LiveWorker.ofContext, hother] using hup
    · exact hun (.created w c) (by simp) rfl

/-- A known worker that a call runs on, or that is disposed of for it, is the one that the slot of
its root has held. -/
lemma held_of_served {before notes : List Note} {slot? : Option Slot} {live : LiveWorker}
    (h : Served before c slot? notes live) {w : WorkerId} (hnamed : ¬ Unnamed before w)
    (hw : live.id = w ∨ .disposed w ∈ notes) : slot?.bind (·.workerId?) = some w := by
  have hknown : ∀ more, ¬ Unnamed (before ++ more) w := fun more hun =>
    hnamed fun n hn => hun n (List.mem_append_left _ hn)
  cases h with
  | @first w' new =>
    rcases hw with rfl | hmem
    · exact absurd new hnamed
    · simp at hmem
  | @again slot live holds fits =>
    rcases hw with rfl | hmem
    · simp [Slot.workerId?, holds]
    · simp at hmem
  | @anew slot old w' holds unfit new =>
    rcases hw with rfl | hmem
    · exact absurd new (hknown _)
    · obtain rfl : w = old.id := by simpa using hmem
      simp [Slot.workerId?, holds]

variable {k : Course σ}

/-- In a run without crashes every slot holds the worker of the last call for its root, and no two
slots hold the same one. -/
structure Calm (journal : σ → List Note) (k : Course σ) : Prop where
  /-- Every root has at most one slot. -/
  nodup : k.registry.slots.roots.Nodup
  /-- A slot holds the worker of the last call. -/
  stands : ∀ root slot, k.registry.slots.at? root = some slot →
    ∃ last live, k.previous root = some last ∧ Stands (journal k.state) slot last live
  /-- Without a slot there is no last call. -/
  gone : ∀ root, k.registry.slots.at? root = none → k.previous root = none
  /-- No two slots hold the same worker. -/
  apart : ∀ root root' w, k.installed? root = some w → k.installed? root' = some w → root = root'

namespace Calm

/-- A course is calm before it starts. -/
lemma start (settings : Settings) (s : σ) : Calm journal (start settings s) where
  nodup := List.nodup_nil
  stands := fun _ _ h => by cases h
  gone := fun _ _ => rfl
  apart := fun _ _ _ h => by cases h

/-- A run stays calm where no call is made and no worker in a slot is disposed of. -/
lemma keep (h : Calm journal k) {k' : Course σ} (more : List Note)
    (hnodup : k'.registry.slots.roots.Nodup) (hjournal : journal k'.state = journal k.state ++ more)
    (hprevious : ∀ root, k'.previous root =
      if (k'.registry.slots.at? root).isNone then none else k.previous root)
    (hslots : ∀ root slot', k'.registry.slots.at? root = some slot' →
      ∃ slot, k.registry.slots.at? root = some slot ∧ slot'.worker = slot.worker ∧
        slot'.health = slot.health)
    (hup : ∀ root w, k'.installed? root = some w → .disposed w ∉ more) : Calm journal k' := by
  have hinstalled : ∀ root w, k'.installed? root = some w → k.installed? root = some w := by
    intro root w hw
    obtain ⟨slot', hslot', hw⟩ := Option.bind_eq_some_iff.1 hw
    obtain ⟨slot, hslot, hworker, -⟩ := hslots root slot' hslot'
    rw [installed?, hslot, Option.bind_some, Slot.workerId?, ← hworker]
    exact hw
  refine ⟨hnodup, fun root slot' hslot' => ?_, fun root hnone => ?_,
    fun root root' w hw hw' => h.apart root root' w (hinstalled _ _ hw) (hinstalled _ _ hw')⟩
  · obtain ⟨slot, hslot, hworker, hhealth⟩ := hslots root slot' hslot'
    obtain ⟨last, live, hlast, hstands⟩ := h.stands root slot hslot
    refine ⟨last, live, ?_, ?_⟩
    · rw [hprevious, hslot', Option.isNone_some, if_neg (by simp), hlast]
    · rw [hjournal]
      refine hstands.mono hworker hhealth (hup root live.id ?_)
      rw [installed?, hslot', Option.bind_some, Slot.workerId?, hworker, hstands.holds]
      rfl
  · rw [hprevious, hnone, Option.isNone_none, if_pos rfl]

/-- The notes of a teardown. -/
lemma journal_tearDown (hworld : world.Steady journal) (workers : List WorkerId) (s : σ) :
    journal (tearDown world workers s) = journal s ++ workers.map .disposed := by
  induction workers generalizing s with
  | nil => simp [tearDown]
  | cons w workers ih =>
    have hrest := ih (world.dispose w s)
    rw [hworld.dispose, List.append_assoc] at hrest
    exact hrest

/-- A folder is torn down. -/
lemma release (h : Calm journal k) (hworld : world.Steady journal) (folder : Location) :
    Calm journal (k.after world journal (.release folder : Act σ α)) := by
  obtain ⟨hgone, hslots⟩ : (k.registry.release folder).1 =
        workersOf (k.registry.slots.filter fun x => claimedOnlyBy folder x.2) ∧
      (k.registry.release folder).2.slots =
        (k.registry.slots.filter fun x => !claimedOnlyBy folder x.2).map
          fun x => (x.1, x.2.release folder) := by
    unfold Registry.release
    rw [List.partition_eq_filter_filter]
    exact ⟨rfl, rfl⟩
  have hat : ∀ root, (k.registry.release folder).2.slots.at? root =
      ((k.registry.slots.at? root).filter fun s => !claimedOnlyBy folder s).map
        (·.release folder) := by
    intro root
    rw [hslots, Slots.at?_map (·.release folder),
      Slots.at?_filter h.nodup fun s => !claimedOnlyBy folder s]
  have hkept : ∀ root slot', (k.registry.release folder).2.slots.at? root = some slot' →
      ∃ slot, k.registry.slots.at? root = some slot ∧ claimedOnlyBy folder slot = false ∧
        slot' = slot.release folder := by
    intro root slot' hslot'
    rw [hat, Option.map_eq_some_iff] at hslot'
    obtain ⟨slot, hslot, rfl⟩ := hslot'
    rw [Option.filter_eq_some_iff] at hslot
    exact ⟨slot, hslot.1, by simpa using hslot.2, rfl⟩
  refine h.keep ((k.registry.release folder).1.map .disposed) ?_ ?_ (fun root => rfl) ?_ ?_
  · show (k.registry.release folder).2.slots.roots.Nodup
    rw [hslots]
    have hroots : Slots.roots ((k.registry.slots.filter fun x => !claimedOnlyBy folder x.2).map
        fun x => (x.1, x.2.release folder)) =
          Slots.roots (k.registry.slots.filter fun x => !claimedOnlyBy folder x.2) := by
      simp only [Slots.roots, List.map_map]
      rfl
    rw [hroots]
    exact (List.filter_sublist.map _).nodup h.nodup
  · exact journal_tearDown hworld _ _
  · intro root slot' hslot'
    obtain ⟨slot, hslot, -, rfl⟩ := hkept root slot' hslot'
    exact ⟨slot, hslot, rfl, rfl⟩
  · intro root w hw hmem
    obtain ⟨slot', hslot', hw⟩ := Option.bind_eq_some_iff.1 hw
    obtain ⟨slot, hslot, honly, rfl⟩ := hkept root slot' hslot'
    -- the slot that the worker was taken from is another one, and holds the same worker
    obtain ⟨w', hw', heq⟩ := List.mem_map.1 hmem
    cases heq
    rw [hgone, Slots.mem_workersOf] at hw'
    obtain ⟨⟨root', s⟩, hin, hheld⟩ := hw'
    obtain ⟨hin, hclaimed⟩ := List.mem_filter.1 hin
    have hat' := (Slots.mem_iff_at? h.nodup).1 hin
    have hroot : root = root' := by
      refine h.apart root root' w ?_ ?_
      · rw [installed?, hslot]
        exact hw
      · rw [installed?, hat']
        exact hheld
    subst hroot
    cases hslot.symm.trans hat'
    rw [honly] at hclaimed
    cases hclaimed

/-- Everything is torn down. -/
lemma drain (h : Calm journal k) (hworld : world.Steady journal) :
    Calm journal (k.after world journal (.drain : Act σ α)) := by
  refine h.keep (k.registry.drain.1.map .disposed) List.nodup_nil ?_ (fun root => rfl)
    ?_ ?_
  · exact journal_tearDown hworld _ _
  · intro root slot' hslot'
    cases hslot'
  · intro root w hw
    cases hw

/-- There is nothing to forgive where there are no crashes. -/
lemma resetWhere_eq (h : Calm journal k) (applies : Slot → Bool) :
    k.registry.resetWhere applies = k.registry := by
  have hsame : (k.registry.slots.map fun x =>
      if applies x.2 && !x.2.health.isHealthy then
        (x.1, { x.2 with health := x.2.health.recordSuccess })
      else x) = k.registry.slots := by
    refine (List.map_congr_left fun x hx => ?_).trans (List.map_id _)
    obtain ⟨last, live, -, hstands⟩ := h.stands x.1 x.2 ((Slots.mem_iff_at? h.nodup).1 hx)
    have hhealthy : x.2.health.isHealthy = true := by
      rw [hstands.fresh]
      rfl
    simp [hhealthy]
  unfold resetWhere
  rw [hsame]

/-- Nothing happens to the registry. -/
lemma same (h : Calm journal k) {k' : Course σ} (hregistry : k'.registry = k.registry)
    (hjournal : journal k'.state = journal k.state)
    (hprevious : ∀ root, k'.previous root =
      if (k'.registry.slots.at? root).isNone then none else k.previous root) :
    Calm journal k' := by
  refine h.keep [] (hregistry ▸ h.nodup) (by simp [hjournal]) hprevious ?_ (by simp)
  intro root slot' hslot'
  rw [hregistry] at hslot'
  exact ⟨slot', hslot', rfl, rfl⟩

/-- A worker in another slot is neither run on nor disposed of. -/
lemma elsewhere (h : Calm journal k) {notes : List Note} {live : LiveWorker}
    (hserved : Served (journal k.state) c (k.registry.slots.at? c.workerRoot.components) notes live)
    {root : Location} {w : WorkerId} (hne : c.workerRoot.components ≠ root)
    (hw : k.installed? root = some w) : live.id ≠ w ∧ .disposed w ∉ notes := by
  obtain ⟨slot, hslot, hheld⟩ := Option.bind_eq_some_iff.1 hw
  obtain ⟨last, live', -, hstands⟩ := h.stands root slot hslot
  have hid : live'.id = w := by
    rw [Slot.workerId?, hstands.holds] at hheld
    exact Option.some.inj hheld
  have hnamed : ¬ Unnamed (journal k.state) w := hid ▸ hstands.named
  have hnot : ¬ (live.id = w ∨ .disposed w ∈ notes) := fun hor =>
    hne (h.apart _ root w (held_of_served hserved hnamed hor) hw)
  exact not_or.1 hnot

/-- The slot of the root holds the worker that the call ran on. -/
lemma stands_here (h : Calm journal k) {notes : List Note} {live : LiveWorker}
    (hserved : Served (journal k.state) c (k.registry.slots.at? c.workerRoot.components) notes
      live) : Stands (journal k.state ++ notes) (k.registry.slotWith c live) ⟨c, notes⟩ live := by
  refine stands_of_served hserved (fun slot live' hslot hholds => ?_) ?_ rfl
  · obtain ⟨last, live'', -, hstands⟩ := h.stands _ slot hslot
    cases hholds.symm.trans hstands.holds
    exact ⟨hstands.up, hstands.named⟩
  · show ((k.registry.slotFor c).claim _).health = _
    rw [health_claim]
    unfold slotFor
    cases hslot : k.registry.slots.at? c.workerRoot.components with
    | none => rfl
    | some slot =>
      obtain ⟨last, live', -, hstands⟩ := h.stands _ slot hslot
      exact hstands.fresh

/-- A run stays calm where a call is served. -/
lemma serve (h : Calm journal k) {k' : Course σ} {notes : List Note} {live : LiveWorker}
    (hserved : Served (journal k.state) c (k.registry.slots.at? c.workerRoot.components) notes live)
    (hslots : k'.registry.slots =
      k.registry.slots.set c.workerRoot.components (k.registry.slotWith c live))
    (hjournal : journal k'.state = journal k.state ++ notes)
    (hprevious : ∀ root, k'.previous root = if (k'.registry.slots.at? root).isNone then none
      else if c.workerRoot.components = root then some ⟨c, notes⟩ else k.previous root) :
    Calm journal k' := by
  have hat : ∀ root, k'.registry.slots.at? root =
      if c.workerRoot.components = root then some (k.registry.slotWith c live)
      else k.registry.slots.at? root := fun root => by rw [hslots, Slots.at?_set]
  have hinstalled : ∀ root w, k'.installed? root = some w →
      c.workerRoot.components = root ∧ live.id = w ∨
        c.workerRoot.components ≠ root ∧ k.installed? root = some w := by
    intro root w hw
    rw [installed?, hat] at hw
    by_cases hroot : c.workerRoot.components = root
    · rw [if_pos hroot] at hw
      exact .inl ⟨hroot, Option.some.inj hw⟩
    · rw [if_neg hroot] at hw
      exact .inr ⟨hroot, hw⟩
  refine ⟨?_, ?_, ?_, ?_⟩
  · rw [hslots]
    exact Slots.nodup_roots_set h.nodup _ _
  · intro root slot hslot
    rw [hprevious, hslot, hjournal, Option.isNone_some, if_neg (by simp)]
    rw [hat] at hslot
    by_cases hroot : c.workerRoot.components = root
    · rw [if_pos hroot] at hslot ⊢
      cases hslot
      exact ⟨⟨c, notes⟩, live, rfl, h.stands_here hserved⟩
    · rw [if_neg hroot] at hslot ⊢
      obtain ⟨last, live', hlast, hstands⟩ := h.stands root slot hslot
      have hheld : k.installed? root = some live'.id := by
        simp [installed?, hslot, Slot.workerId?, hstands.holds]
      exact ⟨last, live', hlast, hstands.mono rfl rfl (h.elsewhere hserved hroot hheld).2⟩
  · intro root hnone
    rw [hprevious, hnone, Option.isNone_none, if_pos rfl]
  · intro root root' w hw hw'
    rcases hinstalled root w hw with ⟨hroot, hlive⟩ | ⟨hroot, hold⟩ <;>
      rcases hinstalled root' w hw' with ⟨hroot', hlive'⟩ | ⟨hroot', hold'⟩
    · exact hroot.symm.trans hroot'
    · exact absurd hlive (h.elsewhere hserved hroot' hold').1
    · exact absurd hlive' (h.elsewhere hserved hroot hold).1
    · exact h.apart root root' w hold hold'

/-- A call. -/
lemma call (h : Calm journal k) (hworld : world.Steady journal) (hwork : SteadyWork journal work) :
    ∃ notes live, journal (k.after world journal (.call c work)).state =
        journal k.state ++ notes ∧
      Served (journal k.state) c (k.registry.slots.at? c.workerRoot.components) notes live ∧
      (k.after world journal (.call c work)).previous c.workerRoot.components =
        some ⟨c, notes⟩ ∧
      Calm journal (k.after world journal (.call c work)) := by
  have hfresh : ∀ slot, k.registry.slots.at? c.workerRoot.components = some slot →
      slot.health = .fresh := by
    intro slot hslot
    obtain ⟨last, live, -, hstands⟩ := h.stands _ slot hslot
    exact hstands.fresh
  have hup : ∀ slot, k.registry.slots.at? c.workerRoot.components = some slot →
      ∃ live, slot.worker = some live ∧ .disposed live.id ∉ journal k.state := by
    intro slot hslot
    obtain ⟨last, live, -, hstands⟩ := h.stands _ slot hslot
    exact ⟨live, hstands.holds, hstands.up⟩
  obtain ⟨outcome, notes, live, s', hrun, hserved, hjournal⟩ :=
    served_run hworld hwork hfresh hup
  have hafter : k.after world journal (.call c work) =
      { registry := k.registry.setSlot c (k.registry.slotWith c live)
        state := s'
        previous := fun root =>
          if ((k.registry.setSlot c (k.registry.slotWith c live)).slots.at? root).isNone then none
          else if c.workerRoot.components = root then some ⟨c, notes⟩ else k.previous root } := by
    simp only [after, Act.perform, hrun, hjournal, List.drop_left]
  rw [hafter]
  exact ⟨notes, live, hjournal, hserved, by simp [setSlot, Slots.at?_set],
    h.serve hserved rfl hjournal fun root => rfl⟩

/-- **Whatever happens next**, the slots hold the workers of the last calls. -/
theorem after (h : Calm journal k) (hworld : world.Steady journal) {x : Act σ α}
    (hx : x.Steady journal) : Calm journal (k.after world journal x) := by
  cases x with
  | call c work =>
    obtain ⟨notes, live, -, -, -, hcalm⟩ := h.call (c := c) hworld hx
    exact hcalm
  | release folder => exact h.release hworld folder
  | drain => exact h.drain hworld
  | workspaceActivity folder =>
    exact h.same (h.resetWhere_eq (·.belongsTo folder)) rfl fun root => rfl
  | fileActivity path => exact h.same (h.resetWhere_eq (·.contains path)) rfl fun root => rfl
  | pass change => exact h.same rfl (hx k.state) fun root => rfl

/-- The slots hold the workers of the last calls all along. -/
theorem run (h : Calm journal k) (hworld : world.Steady journal) {acts : List (Act σ α)}
    (hacts : ∀ x ∈ acts, x.Steady journal) : Calm journal (k.run world journal acts) := by
  induction acts generalizing k with
  | nil => exact h
  | cons x acts ih =>
    rw [List.forall_mem_cons] at hacts
    exact ih (h.after hworld hacts.1) hacts.2

end Calm

/-- What is noted for a call, in terms of the last call for its root. -/
structure Accounted (before : List Note) (previous : Option EndedCall) (installed : Option WorkerId)
    (c : WorkerContext) (notes : List Note) : Prop where
  /-- A worker is created just for a first call and for one with another environment. -/
  creation : notes.any Note.isCreation = true ↔ ∀ last, previous = some last → ¬ last.Alike c
  /-- For a first call nothing but the creation and the work is noted. -/
  first : previous = none → ∃ w, Unnamed before w ∧ notes = [.created w c, .worked w]
  /-- Else the worker of the last call is in the slot; the call runs on it, or it is disposed of
  before a new one is created. -/
  further : ∀ last, previous = some last → ∃ w, last.notes.getLast? = some (.worked w) ∧
    installed = some w ∧ (last.Alike c → notes = [.worked w]) ∧
      (¬ last.Alike c → ∃ w', Unnamed before w' ∧ w' ≠ w ∧
        notes = [.disposed w, .created w' c, .worked w'])

/-- A worker that fits the context of a call fits another one just if the two are alike. -/
lemma fits_iff_alike {live : LiveWorker} {last : EndedCall} (h : live.Fits last.context)
    (c : WorkerContext) : live.Fits c ↔ last.Alike c := by
  unfold LiveWorker.Fits EndedCall.Alike
  rw [h.1, samePnp_congr h.2]

/-- **A call is accounted for by the last call for its root.** -/
lemma Calm.accounted (h : Calm journal k) (hworld : world.Steady journal)
    (hwork : SteadyWork journal work) (c : WorkerContext) :
    ∃ notes, journal (k.after world journal (.call c work)).state = journal k.state ++ notes ∧
      Accounted (journal k.state) (k.previous c.workerRoot.components)
        (k.installed? c.workerRoot.components) c notes := by
  obtain ⟨notes, live, hjournal, hserved, -⟩ := h.call (c := c) hworld hwork
  refine ⟨notes, hjournal, ?_⟩
  rw [installed?]
  cases hslot : k.registry.slots.at? c.workerRoot.components with
  | none =>
    rw [hslot] at hserved
    rw [h.gone _ hslot]
    cases hserved with
    | @first w new =>
      exact ⟨by simp [Note.isCreation], fun _ => ⟨w, new, rfl⟩, fun last hlast => by cases hlast⟩
  | some slot =>
    obtain ⟨last, held, hlast, hstands⟩ := h.stands _ slot hslot
    have hfits := fits_iff_alike hstands.fits c
    have hheld : slot.workerId? = some held.id := by rw [Slot.workerId?, hstands.holds]; rfl
    rw [hslot] at hserved
    rw [hlast]
    cases hserved with
    | again holds fits =>
      cases holds.symm.trans hstands.holds
      have halike := hfits.1 fits
      refine ⟨by simp [Note.isCreation, halike], fun hnone => (by cases hnone), ?_⟩
      rintro _ ⟨⟩
      exact ⟨_, hstands.worked, hheld, fun _ => rfl, fun hnot => absurd halike hnot⟩
    | @anew _ _ w holds unfit new =>
      cases holds.symm.trans hstands.holds
      have hdiffers := mt hfits.2 unfit
      refine ⟨by simp [Note.isCreation, hdiffers], fun hnone => (by cases hnone), ?_⟩
      rintro _ ⟨⟩
      refine ⟨_, hstands.worked, hheld, fun halike => absurd halike hdiffers,
        fun _ => ⟨w, ?_, ?_, rfl⟩⟩
      · exact fun n hn => new n (List.mem_append_left _ hn)
      · exact fun heq => new (.disposed held.id) (by simp) heq.symm

/-- **Warm reuse is exact.** In a run in which creation succeeds, no work crashes and no worker goes
down of itself, a worker is created for a call just if it is the first one for its root since the
root has had a slot, or its environment is not that of the call before; then the worker of that call
is disposed of first, and no other. Every other call runs on the worker in the slot. -/
theorem reuse_exact (hworld : world.Steady journal) {settings : Settings} {s : σ}
    {acts : List (Act σ α)} (hacts : ∀ x ∈ acts, x.Steady journal)
    (hk : k = (start settings s).run world journal acts) (hwork : SteadyWork journal work)
    (c : WorkerContext) :
    ∃ notes, journal (k.after world journal (.call c work)).state = journal k.state ++ notes ∧
      Accounted (journal k.state) (k.previous c.workerRoot.components)
        (k.installed? c.workerRoot.components) c notes := by
  subst hk
  exact ((Calm.start settings s).run hworld hacts).accounted hworld hwork c

/-- A world that keeps a journal and numbers its workers. -/
def diary : World (List Note) where
  create c notes :=
    let w := (notes.map Note.worker).foldr max 0 + 1
    (.ok w, notes ++ [.created w c])
  dispose w notes := notes ++ [.disposed w]
  down notes w := notes.contains (.disposed w)
  now _ := ⟨0⟩

/-- That world is steady. -/
lemma diary_steady : diary.Steady id where
  create c notes := by
    refine ⟨_, rfl, fun n hn heq => ?_, rfl⟩
    have hle := List.le_max_of_le' 0 (List.mem_map_of_mem hn) (Nat.le_refl n.worker)
    exact Nat.ne_of_lt (Nat.lt_succ_of_le hle) heq
  dispose _ _ := rfl
  down notes w := by simp [diary]

/-- Work that is noted in the journal. -/
def diaryWork : Work (List Note) Unit := fun w notes => (.ok (), notes ++ [.worked w])

/-- That work is steady. -/
lemma diaryWork_steady : SteadyWork id diaryWork := fun _ _ => ⟨rfl, fun _ h => by cases h⟩

/-- Contexts of one root that differ in the key of their environment. -/
def keyed (key : String) : WorkerContext := ⟨⟨"/r"⟩, ⟨"/r"⟩, none, some key⟩

/-- A run with two calls for one root, of one environment, and a folder torn down between them that
does not use the root. -/
def diaryActs : List (Act (List Note) Unit) :=
  [.call (keyed "a") diaryWork, .release [], .call (keyed "a") diaryWork]

/-- The acts of that run are steady. -/
lemma diaryActs_steady : ∀ x ∈ diaryActs, x.Steady id := by
  simp only [diaryActs, List.forall_mem_cons, List.not_mem_nil, false_implies, implies_true,
    and_true]
  exact ⟨diaryWork_steady, trivial, diaryWork_steady⟩

/-- A further call of that environment runs on the worker, and one of another environment has it
disposed of and another one created. -/
theorem reuse_exact_keyed :
    ((start .standard []).run diary id diaryActs).state =
        [.created 1 (keyed "a"), .worked 1, .worked 1] ∧
      (∃ notes, (((start .standard []).run diary id diaryActs).after diary id
          (.call (keyed "a") diaryWork)).state =
          ((start .standard []).run diary id diaryActs).state ++ notes ∧ notes = [.worked 1]) ∧
      ∃ notes w, (((start .standard []).run diary id diaryActs).after diary id
          (.call (keyed "b") diaryWork)).state =
          ((start .standard []).run diary id diaryActs).state ++ notes ∧
        notes = [.disposed 1, .created w (keyed "b"), .worked w] := by
  have hlast : ∀ key, ((start .standard []).run diary id diaryActs).previous
      (keyed key).workerRoot.components = some ⟨keyed "a", [.worked 1]⟩ :=
    fun key => by rw [show (keyed key).workerRoot = ⟨"/r"⟩ from rfl]; decide +kernel
  refine ⟨by decide +kernel, ?_, ?_⟩
  · obtain ⟨notes, hjournal, haccounted⟩ :=
      reuse_exact diary_steady diaryActs_steady rfl diaryWork_steady (keyed "a")
    obtain ⟨w, hworked, -, halike, -⟩ := haccounted.further _ (hlast "a")
    cases hworked
    exact ⟨notes, hjournal, halike (by decide)⟩
  · obtain ⟨notes, hjournal, haccounted⟩ :=
      reuse_exact diary_steady diaryActs_steady rfl diaryWork_steady (keyed "b")
    obtain ⟨w, hworked, -, -, hdiffers⟩ := haccounted.further _ (hlast "b")
    cases hworked
    obtain ⟨w', -, -, hnotes⟩ := hdiffers (by decide)
    exact ⟨notes, w', hjournal, hnotes⟩

end Course
end Registry
end LintPool
