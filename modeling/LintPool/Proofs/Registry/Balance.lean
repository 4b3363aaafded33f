import Mathlib.Tactic.Common
import LintPool.Proofs.Registry.Slots
import LintPool.Registry.Call

set_option autoImplicit false

/-!
# What goes into the slots and what comes out

Every operation of the registry gives an account of the workers in the slots: those that it takes
out it hands to its caller, and the one that it puts in was handed to it. The accounts are stated as
permutations, so that a worker which is lost or kept twice would show.

## Main definitions

* `LintPool.Registry.installed` — the workers in the slots.
* `LintPool.Registry.Lookup.leaving?`, `LintPool.Registry.Installed.leaving?` — the worker that is
  left to the call to dispose of.
* `LintPool.Phase.chosen?` — the worker that a call runs on, or is about to.

## Main results

* `LintPool.Registry.installed_begin`, `LintPool.Registry.installed_afterCreation`,
  `LintPool.Registry.installed_afterWork` — the accounts of the steps of a call.
* `LintPool.Registry.installed_release`, `LintPool.Registry.installed_drain` — the accounts of the
  teardowns.
* `LintPool.Registry.chosen_begin`, `LintPool.Registry.chosen_afterCreation` — where the worker of a
  call comes from.
-/

namespace LintPool

namespace Registry

/-- The workers in the slots. -/
def installed (r : Registry) : List WorkerId :=
  workersOf r.slots

/-- The worker that a look into a slot takes out. -/
def Lookup.leaving? : Lookup → Option WorkerId
  | .stale w => some w
  | _ => none

/-- The worker that is out, or stays out, once a new worker was offered to a slot. -/
def Installed.leaving? (created : WorkerId) : Installed → Option WorkerId
  | .ours displaced => displaced
  | .theirs _ => some created

/-! ## The steps on one slot -/

/-- The slot of a context holds what is found at its root. -/
lemma workerId?_slotFor (r : Registry) (c : WorkerContext) :
    (r.slotFor c).workerId? = (r.slots.at? c.workerRoot.components).bind (·.workerId?) := by
  unfold slotFor
  cases r.slots.at? c.workerRoot.components <;> rfl

/-- The worker in the slot of a context is installed. -/
lemma mem_installed_of_slotFor {r : Registry} {c : WorkerContext} {w : LiveWorker}
    (h : (r.slotFor c).worker = some w) : w.id ∈ r.installed := by
  have hid : (r.slotFor c).workerId? = some w.id := by rw [Slot.workerId?, h]; rfl
  rw [workerId?_slotFor, Option.bind_eq_some_iff] at hid
  obtain ⟨s, hs, hw⟩ := hid
  exact Slots.mem_workersOf.2 ⟨_, Slots.mem_of_at? hs, hw⟩

/-- The worker of a slot that was set is installed. -/
lemma mem_installed_setSlot {r : Registry} {c : WorkerContext} {s : Slot} {w : WorkerId}
    (h : s.workerId? = some w) : w ∈ (r.setSlot c s).installed := by
  refine Slots.mem_workersOf.2 ⟨(c.workerRoot.components, s), Slots.mem_of_at? ?_, h⟩
  rw [setSlot, Slots.at?_set, if_pos rfl]

/-- Setting the slot of a context exchanges the worker in it. -/
lemma installed_setSlot (r : Registry) (c : WorkerContext) (s : Slot) :
    ((r.setSlot c s).installed ++ (r.slotFor c).workerId?.toList).Perm
      (r.installed ++ s.workerId?.toList) := by
  rw [workerId?_slotFor]
  exact Slots.workersOf_set c.workerRoot.components s r.slots

/-- Setting the slot of a context without touching its worker leaves the workers as they are. -/
lemma installed_setSlot_of_worker_eq {r : Registry} {c : WorkerContext} {s : Slot}
    (h : s.worker = (r.slotFor c).worker) : (r.setSlot c s).installed.Perm r.installed := by
  have hb := installed_setSlot r c s
  rw [show s.workerId? = (r.slotFor c).workerId? by rw [Slot.workerId?, h]; rfl] at hb
  exact (List.perm_append_right_iff _).1 hb

/-- Being let through or turned away does not touch the workers. -/
lemma installed_enter (r : Registry) (c : WorkerContext) (now : Instant) :
    (r.enter c now).2.installed.Perm r.installed := by
  refine installed_setSlot_of_worker_eq ?_
  show ((r.slotFor c).claim _).worker = _
  unfold Slot.claim
  split <;> rfl

/-- A look into a slot takes out at most the worker that it reports as not fit. -/
lemma installed_lookup (r : Registry) (down : WorkerId → Bool) (c : WorkerContext) :
    ((r.lookup down c).2.installed ++ (r.lookup down c).1.leaving?.toList).Perm r.installed := by
  rcases hw : (r.slotFor c).worker with _ | w
  · simp only [lookup, hw, Lookup.leaving?, Option.toList_none, List.append_nil]
    exact installed_setSlot_of_worker_eq rfl
  · simp only [lookup, hw]
    split
    · simp only [Lookup.leaving?, Option.toList_none, List.append_nil]
      exact installed_setSlot_of_worker_eq rfl
    · have hb := installed_setSlot r c { r.slotFor c with worker := none }
      simpa [Slot.workerId?, hw, Lookup.leaving?] using hb

/-- A worker reported as fit is the one in the slot, and serves. -/
lemma worker_of_lookup_fit {r : Registry} {down : WorkerId → Bool} {c : WorkerContext}
    {w : WorkerId} (h : (r.lookup down c).1 = .fit w) :
    ∃ live, (r.slotFor c).worker = some live ∧ live.serves down c = true ∧ live.id = w := by
  rcases hw : (r.slotFor c).worker with _ | live
  · simp [lookup, hw] at h
  · simp only [lookup, hw] at h
    split at h
    · rename_i hs
      cases h
      exact ⟨live, rfl, hs, rfl⟩
    · cases h

/-- Of the worker that was created and the one in the slot, one is in the slot afterwards and the
other is left to the call. -/
lemma installed_install (r : Registry) (down : WorkerId → Bool) (c : WorkerContext)
    (created : WorkerId) :
    ((r.install down c created).2.installed ++
        ((r.install down c created).1.leaving? created).toList).Perm
      (r.installed ++ [created]) := by
  rcases hw : (r.slotFor c).worker with _ | w
  · have hb := installed_setSlot r c { r.slotFor c with worker := some (.ofContext created c) }
    simpa [install, Slot.workerId?, hw, Installed.leaving?, LiveWorker.ofContext] using hb
  · simp only [install, hw]
    split
    · exact (installed_setSlot_of_worker_eq rfl).append_right _
    · have hb := installed_setSlot r c { r.slotFor c with worker := some (.ofContext created c) }
      simpa [Slot.workerId?, hw, Installed.leaving?, LiveWorker.ofContext] using hb

/-- A worker that won against the created one is the one in the slot, and serves. -/
lemma worker_of_theirs {r : Registry} {down : WorkerId → Bool} {c : WorkerContext}
    {created w : WorkerId} (h : (r.install down c created).1 = .theirs w) :
    ∃ live, (r.slotFor c).worker = some live ∧ live.serves down c = true ∧ live.id = w := by
  rcases hw : (r.slotFor c).worker with _ | live
  · simp [install, hw] at h
  · simp only [install, hw] at h
    split at h
    · rename_i hs
      cases h
      exact ⟨live, rfl, hs, rfl⟩
    · cases h

/-- A created worker that was not turned down is in the slot. -/
lemma mem_installed_of_ours {r : Registry} {down : WorkerId → Bool} {c : WorkerContext}
    {created : WorkerId} {displaced : Option WorkerId}
    (h : (r.install down c created).1 = .ours displaced) :
    created ∈ (r.install down c created).2.installed := by
  rcases hw : (r.slotFor c).worker with _ | live
  · simp only [install, hw]
    exact mem_installed_setSlot rfl
  · simp only [install, hw] at h ⊢
    split
    · rename_i hs
      simp [hs] at h
    · exact mem_installed_setSlot rfl

/-- A crash takes out at most the worker that it hands to its call. -/
lemma installed_recordFailure (r : Registry) (root : Location) (worker : Option WorkerId)
    (e : WorkerError) :
    ((r.recordFailure root worker e).2.installed ++
        (r.recordFailure root worker e).1.toList).Perm r.installed := by
  unfold recordFailure
  split
  · simp
  · rcases hs : r.slots.at? root with _ | s
    · simp
    · dsimp only
      split
      · rename_i h
        simp only [Bool.and_eq_true, decide_eq_true_eq] at h
        have hb := Slots.workersOf_set root
          { s with health := s.health.recordCrash, worker := none } r.slots
        simpa [hs, Slot.workerId?, h.2, installed] using hb
      · have hb := Slots.workersOf_set root { s with health := s.health.recordCrash } r.slots
        rw [hs] at hb
        simpa [installed] using (List.perm_append_right_iff _).1 hb

/-- A success does not touch the workers. -/
lemma installed_recordSuccess (r : Registry) (root : Location) :
    (r.recordSuccess root).installed.Perm r.installed := by
  unfold recordSuccess
  rcases hs : r.slots.at? root with _ | s
  · exact List.Perm.refl _
  · have hb := Slots.workersOf_set root { s with health := s.health.recordSuccess } r.slots
    rw [hs] at hb
    exact (List.perm_append_right_iff _).1 hb

/-! ## The steps on all slots -/

/-- A change of slots that leaves their workers alone leaves the list of workers alone. -/
lemma workersOf_map (f : Location × Slot → Location × Slot)
    (hf : ∀ x, (f x).2.worker = x.2.worker) (slots : Slots) :
    workersOf (slots.map f) = workersOf slots := by
  unfold workersOf
  rw [List.filterMap_map]
  congr 1
  funext x
  simp [hf]

/-- A folder that gives up its claims gets the workers of the slots that go. -/
lemma installed_release (r : Registry) (folder : Location) :
    ((r.release folder).2.installed ++ (r.release folder).1).Perm r.installed := by
  have hkept : (r.release folder).2.installed =
      workersOf (r.slots.filter fun s => !claimedOnlyBy folder s.2) := by
    simp only [release, installed, List.partition_eq_filter_filter]
    exact workersOf_map (fun x => (x.1, x.2.release folder)) (fun _ => rfl) _
  have hgone : (r.release folder).1 =
      workersOf (r.slots.filter fun s => claimedOnlyBy folder s.2) := by
    simp only [release, List.partition_eq_filter_filter]
  rw [hkept, hgone]
  refine List.perm_append_comm.trans ?_
  unfold installed workersOf
  rw [← List.filterMap_append]
  exact (List.filter_append_perm _ r.slots).filterMap _

/-- A drain takes out every worker. -/
lemma installed_drain (r : Registry) : (r.drain).2.installed = [] ∧ (r.drain).1 = r.installed :=
  ⟨rfl, rfl⟩

/-- Another chance for crashed roots does not touch the workers. -/
lemma installed_resetWhere (r : Registry) (applies : Slot → Bool) :
    (r.resetWhere applies).installed = r.installed := by
  refine workersOf_map _ (fun x => ?_) _
  split <;> rfl

end Registry

/-! ## The steps of a call -/

namespace Phase

variable {α : Type}

/-- The worker that a call runs on, or has chosen to run on. -/
def chosen? : Phase α → Option WorkerId
  | .settling chosen _ => some chosen
  | .working worker => some worker
  | _ => none

/-- After a disposal a call does not wait for another one right away. -/
lemma disposing_afterDisposal (ph : Phase α) : ph.afterDisposal.disposing? = none := by
  cases ph <;> rfl

/-- A disposal does not change which worker a call has chosen. -/
lemma chosen_afterDisposal (ph : Phase α) : ph.afterDisposal.chosen? = ph.chosen? := by
  cases ph <;> rfl

end Phase

namespace Registry

variable {α : Type}

/-- The first step of a call takes out at most the worker whose disposal it begins. -/
lemma installed_begin (r : Registry) (down : WorkerId → Bool) (c : WorkerContext) (now : Instant) :
    ((r.begin down c now : Phase α × Registry).2.installed ++
        (r.begin down c now : Phase α × Registry).1.disposing?.toList).Perm r.installed := by
  have he := installed_enter r c now
  unfold begin
  rcases hv : r.enter c now with ⟨_ | _, r'⟩ <;> rw [hv] at he
  · simpa [Phase.disposing?] using he
  · have hl := (installed_lookup r' down c).trans he
    dsimp only
    rcases hf : r'.lookup down c with ⟨_ | _ | _, r''⟩ <;> rw [hf] at hl <;> exact hl

/-- A failure takes out at most the worker whose disposal begins with it. -/
lemma installed_fail (r : Registry) (c : WorkerContext) (worker : Option WorkerId)
    (e : WorkerError) :
    ((r.fail c worker e : Phase α × Registry).2.installed ++
        (r.fail c worker e : Phase α × Registry).1.disposing?.toList).Perm r.installed := by
  have hf := installed_recordFailure r c.workerRoot.components worker e
  unfold fail
  rcases hr : r.recordFailure c.workerRoot.components worker e with ⟨_ | _, r'⟩ <;>
    rw [hr] at hf <;> exact hf

/-- The step after a creation that failed takes out no more than any failure. -/
lemma installed_afterCreation_error (r : Registry) (down : WorkerId → Bool) (c : WorkerContext)
    (e : WorkerError) :
    ((r.afterCreation down c (.error e) : Phase α × Registry).2.installed ++
      (r.afterCreation down c (.error e) : Phase α × Registry).1.disposing?.toList).Perm
      r.installed :=
  installed_fail r c none e

/-- The step after a creation puts the new worker into the slot or begins its disposal, and begins
the disposal of the worker that was in the slot if it is there no more. -/
lemma installed_afterCreation (r : Registry) (down : WorkerId → Bool) (c : WorkerContext)
    (created : WorkerId) :
    ((r.afterCreation down c (.ok created) : Phase α × Registry).2.installed ++
      (r.afterCreation down c (.ok created) : Phase α × Registry).1.disposing?.toList).Perm
      (r.installed ++ [created]) := by
  have hi := installed_install r down c created
  simp only [afterCreation]
  rcases hr : r.install down c created with ⟨⟨_ | _⟩ | _, r'⟩ <;> rw [hr] at hi <;> exact hi

/-- The step after the work takes out at most the worker whose disposal it begins. -/
lemma installed_afterWork (r : Registry) (c : WorkerContext) (worker : WorkerId)
    (outcome : Except WorkerError α) :
    ((r.afterWork c worker outcome).2.installed ++
        (r.afterWork c worker outcome).1.disposing?.toList).Perm r.installed := by
  cases outcome with
  | ok a => simpa [afterWork, Phase.disposing?] using installed_recordSuccess r _
  | error e => exact installed_fail r c (some worker) e

/-- A call that may run at once runs on a worker that was in its slot, and still is. -/
lemma chosen_begin {r : Registry} {down : WorkerId → Bool} {c : WorkerContext} {now : Instant}
    {w : WorkerId} (h : (r.begin down c now : Phase α × Registry).1.chosen? = some w) :
    w ∈ r.installed ∧ w ∈ (r.begin down c now : Phase α × Registry).2.installed := by
  have he := installed_enter r c now
  unfold begin at h ⊢
  rcases hv : r.enter c now with ⟨_ | _, r'⟩ <;> rw [hv] at h he
  · cases h
  · have hl := installed_lookup r' down c
    dsimp only at h ⊢
    rcases hf : r'.lookup down c with ⟨_ | _ | _, r''⟩ <;> rw [hf] at h hl
    · cases h
      obtain ⟨live, hw, -, rfl⟩ := worker_of_lookup_fit (congrArg Prod.fst hf)
      have hm := mem_installed_of_slotFor hw
      have hl' : r''.installed.Perm r'.installed := by simpa [Lookup.leaving?] using hl
      exact ⟨he.mem_iff.1 hm, hl'.mem_iff.2 hm⟩
    · cases h
    · cases h

/-- After a creation a call runs on the new worker, or on one that was in its slot before; either is
in the slot now. -/
lemma chosen_afterCreation {r : Registry} {down : WorkerId → Bool} {c : WorkerContext}
    {created w : WorkerId}
    (h : (r.afterCreation down c (.ok created) : Phase α × Registry).1.chosen? = some w) :
    (w = created ∨ w ∈ r.installed) ∧
      w ∈ (r.afterCreation down c (.ok created) : Phase α × Registry).2.installed := by
  have hi := installed_install r down c created
  have ho : ∀ displaced, (r.install down c created).1 = .ours displaced →
      created ∈ (r.install down c created).2.installed := fun _ h => mem_installed_of_ours h
  simp only [afterCreation] at h ⊢
  rcases hr : r.install down c created with ⟨⟨_ | _⟩ | _, r'⟩ <;> rw [hr] at h hi ho <;> cases h
  · exact ⟨Or.inl rfl, ho _ rfl⟩
  · exact ⟨Or.inl rfl, ho _ rfl⟩
  · obtain ⟨live, hw, -, rfl⟩ := worker_of_theirs (congrArg Prod.fst hr)
    have hm := mem_installed_of_slotFor hw
    have hi' : r'.installed.Perm r.installed := (List.perm_append_right_iff _).1 hi
    exact ⟨Or.inr hm, hi'.mem_iff.2 hm⟩

/-- A call that has failed has no worker. -/
lemma chosen_fail (r : Registry) (c : WorkerContext) (worker : Option WorkerId) (e : WorkerError) :
    (r.fail c worker e : Phase α × Registry).1.chosen? = none := by
  unfold fail
  split <;> rfl

/-- A call whose work is done has no worker. -/
lemma chosen_afterWork (r : Registry) (c : WorkerContext) (worker : WorkerId)
    (outcome : Except WorkerError α) : (r.afterWork c worker outcome).1.chosen? = none := by
  cases outcome with
  | ok a => rfl
  | error e => exact chosen_fail r c (some worker) e

end Registry

end LintPool
