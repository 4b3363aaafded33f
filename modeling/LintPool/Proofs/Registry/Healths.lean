import LintPool.Registry.Call
import LintPool.Proofs.Registry.Slots

set_option autoImplicit false

/-!
# The health of a root through the steps of the registry

Workers come and go, and the health of their root stays: only the steps that ask for it change it.
A root without a slot counts as one that never crashed, which is what its slot will say when it gets
one.

## Main definitions

* `LintPool.Registry.healthOf` — the health of a root.

## Main results

* `LintPool.Registry.registry_begin`, `LintPool.Registry.registry_afterCreation`,
  `LintPool.Registry.registry_fail` — the registry after each step of a call.
* `LintPool.Registry.healthOf_enter` — a call is considered on the health of its own root.
* `LintPool.Registry.healthOf_begin`, `LintPool.Registry.healthOf_afterCreation`,
  `LintPool.Registry.healthOf_recordFailure` — the health through the steps of a call.
* `LintPool.Registry.healthOf_release`, `LintPool.Registry.healthOf_resetWhere` — the health through
  teardowns and activity.
-/

namespace LintPool

/-- What is found at a root after every slot has been changed. -/
lemma Slots.at?_map (g : Slot → Slot) (slots : Slots) (root : Location) :
    Slots.at? (slots.map fun x => (x.1, g x.2)) root = (slots.at? root).map g := by
  induction slots with
  | nil => rfl
  | cons x rest ih =>
    obtain ⟨r, s⟩ := x
    rw [List.map_cons, at?_cons, at?_cons, ih]
    split <;> rfl

namespace Registry

variable {α : Type}

/-- The health of a root. -/
def healthOf (r : Registry) (root : Location) : Health :=
  ((r.slots.at? root).map (·.health)).getD .fresh

/-- The health of a root that has a slot is what the slot says. -/
lemma healthOf_of_at? {r : Registry} {root : Location} {s : Slot}
    (h : r.slots.at? root = some s) : r.healthOf root = s.health := by
  rw [healthOf, h]
  rfl

/-- The slot that a context finds or makes says the health of its root. -/
lemma health_slotFor (r : Registry) (c : WorkerContext) :
    (r.slotFor c).health = r.healthOf c.workerRoot.components := by
  unfold slotFor healthOf
  cases r.slots.at? c.workerRoot.components <;> rfl

/-! ## The registry after each step of a call -/

/-- A call that begins leaves the registry as the verdict on it or its look into the slot does. -/
lemma registry_begin (r : Registry) (down : WorkerId → Bool) (c : WorkerContext) (now : Instant) :
    (r.begin down c now : Phase α × Registry).2 = (r.enter c now).2 ∨
      (r.begin down c now : Phase α × Registry).2 = ((r.enter c now).2.lookup down c).2 := by
  unfold begin
  rcases r.enter c now with ⟨_ | _, r'⟩
  · exact .inl rfl
  · right
    dsimp only
    rcases r'.lookup down c with ⟨_ | _ | _, r''⟩ <;> rfl

/-- After a creation that yielded a worker the registry is as putting it in leaves it. -/
lemma registry_afterCreation (r : Registry) (down : WorkerId → Bool) (c : WorkerContext)
    (created : WorkerId) :
    (r.afterCreation down c (.ok created) : Phase α × Registry).2 =
      (r.install down c created).2 := by
  simp only [afterCreation]
  rcases r.install down c created with ⟨⟨_ | _⟩ | _, r'⟩ <;> rfl

/-- After a failure the registry is as recording it leaves it. -/
lemma registry_fail (r : Registry) (c : WorkerContext) (worker : Option WorkerId)
    (e : WorkerError) :
    (r.fail c worker e : Phase α × Registry).2 =
      (r.recordFailure c.workerRoot.components worker e).2 := by
  unfold fail
  rcases r.recordFailure c.workerRoot.components worker e with ⟨_ | _, r'⟩ <;> rfl

/-! ## The steps of a call -/

/-- Setting the slot of a context sets the health of its root. -/
lemma healthOf_setSlot (r : Registry) (c : WorkerContext) (s : Slot) (root : Location) :
    (r.setSlot c s).healthOf root =
      if c.workerRoot.components = root then s.health else r.healthOf root := by
  unfold healthOf setSlot
  rw [Slots.at?_set]
  split <;> rfl

/-- Setting the slot of a context without touching its health changes no health. -/
lemma healthOf_setSlot_of_health_eq {r : Registry} {c : WorkerContext} {s : Slot}
    (h : s.health = (r.slotFor c).health) (root : Location) :
    (r.setSlot c s).healthOf root = r.healthOf root := by
  rw [healthOf_setSlot, h, health_slotFor]
  split
  · rename_i hr
    rw [hr]
  · rfl

/-- Noting a folder does not touch the health. -/
lemma health_claim (s : Slot) (folder : Location) : (s.claim folder).health = s.health := by
  unfold Slot.claim
  split <;> rfl

/-- The verdict on a call is that on the health of its root. -/
lemma verdict_enter (r : Registry) (c : WorkerContext) (now : Instant) :
    (r.enter c now).1 =
      ((r.healthOf c.workerRoot.components).consider r.policy c.workerRoot now).1 := by
  rw [← health_slotFor, ← health_claim (r.slotFor c) c.workspaceFolder.components]
  rfl

/-- A call is considered on the health of its own root, and no other is touched. -/
lemma healthOf_enter (r : Registry) (c : WorkerContext) (now : Instant) (root : Location) :
    (r.enter c now).2.healthOf root =
      if c.workerRoot.components = root then
        ((r.healthOf root).consider r.policy c.workerRoot now).2
      else r.healthOf root := by
  have hset : (r.enter c now).2.healthOf root =
      if c.workerRoot.components = root then
        (((r.slotFor c).claim c.workspaceFolder.components).health.consider r.policy
          c.workerRoot now).2
      else r.healthOf root := healthOf_setSlot r c _ root
  rw [hset, health_claim, health_slotFor]
  split
  · rename_i hr
    rw [hr]
  · rfl

/-- A look into a slot changes no health. -/
lemma healthOf_lookup (r : Registry) (down : WorkerId → Bool) (c : WorkerContext)
    (root : Location) : (r.lookup down c).2.healthOf root = r.healthOf root := by
  unfold lookup
  dsimp only
  split
  · split <;> exact healthOf_setSlot_of_health_eq (by rfl) root
  · exact healthOf_setSlot_of_health_eq (by rfl) root

/-- Putting in a worker changes no health. -/
lemma healthOf_install (r : Registry) (down : WorkerId → Bool) (c : WorkerContext)
    (created : WorkerId) (root : Location) :
    (r.install down c created).2.healthOf root = r.healthOf root := by
  unfold install
  dsimp only
  split
  · split <;> exact healthOf_setSlot_of_health_eq (by rfl) root
  · exact healthOf_setSlot_of_health_eq (by rfl) root

/-- The first step of a call changes the health of its root as the verdict on it does. -/
lemma healthOf_begin (r : Registry) (down : WorkerId → Bool) (c : WorkerContext) (now : Instant)
    (root : Location) :
    (r.begin down c now : Phase α × Registry).2.healthOf root =
      (r.enter c now).2.healthOf root := by
  rcases registry_begin (α := α) r down c now with h | h <;> rw [h]
  exact healthOf_lookup ..

/-- The step after a creation that yielded a worker changes no health. -/
lemma healthOf_afterCreation (r : Registry) (down : WorkerId → Bool) (c : WorkerContext)
    (created : WorkerId) (root : Location) :
    (r.afterCreation down c (.ok created) : Phase α × Registry).2.healthOf root =
      r.healthOf root := by
  rw [registry_afterCreation]
  exact healthOf_install ..

/-- A success makes its root healthy. -/
lemma healthOf_recordSuccess (r : Registry) (at' root : Location) :
    (r.recordSuccess at').healthOf root =
      if at' = root then (r.healthOf root).recordSuccess else r.healthOf root := by
  unfold recordSuccess
  split
  · rw [healthOf, Slots.at?_set]
    split <;> rfl
  · rename_i hnone
    split
    · rename_i hr
      rw [healthOf, ← hr, hnone]
      rfl
    · rfl

/-- A failure counts against its root if it is a crash and the root has a slot. -/
lemma healthOf_recordFailure {r : Registry} {at' root : Location} {worker : Option WorkerId}
    {e : WorkerError} {s : Slot} (h : (r.recordFailure at' worker e).2.slots.at? root = some s) :
    (r.recordFailure at' worker e).2.healthOf root =
      if at' = root ∧ e.isCrash then (r.healthOf root).recordCrash else r.healthOf root := by
  unfold recordFailure at h ⊢
  by_cases he : e.isCrash
  · rcases hs : r.slots.at? at' with _ | s'
    · simp only [he, Bool.not_true, Bool.false_eq_true, if_false, hs, and_true] at h ⊢
      rw [if_neg fun hr => ?_]
      subst hr
      exact absurd (hs.symm.trans h) (by simp)
    · simp only [he, Bool.not_true, Bool.false_eq_true, if_false, and_true]
      by_cases hr : at' = root
      · subst hr
        rw [if_pos rfl, healthOf_of_at? hs]
        split <;> rw [healthOf, Slots.at?_set, if_pos rfl] <;> rfl
      · rw [if_neg hr]
        split <;> rw [healthOf, Slots.at?_set, if_neg hr] <;> rfl
  · simp [he]

/-! ## Teardowns and activity -/

/-- A root that still has a slot after a folder was torn down has kept its health. -/
lemma healthOf_release {r : Registry} (hn : r.slots.roots.Nodup) (folder : Location)
    {root : Location} {s : Slot} (h : (r.release folder).2.slots.at? root = some s) :
    (r.release folder).2.healthOf root = r.healthOf root := by
  have hmem := Slots.mem_of_at? h
  simp only [release, List.partition_eq_filter_filter, List.mem_map, List.mem_filter] at hmem
  obtain ⟨⟨root', s'⟩, ⟨hin, -⟩, heq⟩ := hmem
  obtain ⟨rfl, rfl⟩ := Prod.mk.injEq .. ▸ heq
  rw [healthOf_of_at? h, healthOf_of_at? ((Slots.mem_iff_at? hn).1 hin)]
  rfl

/-- The slots after activity. -/
lemma at?_resetWhere (r : Registry) (applies : Slot → Bool) (root : Location) :
    (r.resetWhere applies).slots.at? root = (r.slots.at? root).map fun s =>
      if applies s && !s.health.isHealthy then { s with health := s.health.recordSuccess }
      else s := by
  rw [← Slots.at?_map]
  refine congrArg (Slots.at? · root) (List.map_congr_left fun x _ => ?_)
  split <;> rfl

/-- Activity makes the roots healthy that it applies to, and that are not. -/
lemma healthOf_resetWhere {r : Registry} (applies : Slot → Bool) {root : Location} {s : Slot}
    (h : r.slots.at? root = some s) :
    (r.resetWhere applies).healthOf root =
      if applies s && !s.health.isHealthy then s.health.recordSuccess else s.health := by
  rw [healthOf, at?_resetWhere, h]
  simp only [Option.map_some, Option.getD_some]
  split <;> rfl

/-! ## The policy -/

/-- A look into a slot keeps the policy. -/
lemma policy_lookup (r : Registry) (down : WorkerId → Bool) (c : WorkerContext) :
    (r.lookup down c).2.policy = r.policy := by
  unfold lookup
  dsimp only
  split
  · split <;> rfl
  · rfl

/-- The first step of a call keeps the policy. -/
lemma policy_begin (r : Registry) (down : WorkerId → Bool) (c : WorkerContext) (now : Instant) :
    (r.begin down c now : Phase α × Registry).2.policy = r.policy := by
  rcases registry_begin (α := α) r down c now with h | h <;> rw [h]
  · rfl
  · exact policy_lookup ..

/-- A failure keeps the policy. -/
lemma policy_fail (r : Registry) (c : WorkerContext) (worker : Option WorkerId) (e : WorkerError) :
    (r.fail c worker e : Phase α × Registry).2.policy = r.policy := by
  rw [registry_fail]
  unfold recordFailure
  split
  · rfl
  · split
    · rfl
    · dsimp only
      split <;> rfl

/-- The step after a creation keeps the policy. -/
lemma policy_afterCreation (r : Registry) (down : WorkerId → Bool) (c : WorkerContext)
    (created : Except WorkerError WorkerId) :
    (r.afterCreation down c created : Phase α × Registry).2.policy = r.policy := by
  cases created with
  | error e => exact policy_fail r c none e
  | ok w =>
    rw [registry_afterCreation]
    unfold install
    dsimp only
    split
    · split <;> rfl
    · rfl

/-- The step after the work keeps the policy. -/
lemma policy_afterWork (r : Registry) (c : WorkerContext) (worker : WorkerId)
    (outcome : Except WorkerError α) : (r.afterWork c worker outcome).2.policy = r.policy := by
  cases outcome with
  | ok a =>
    simp only [afterWork, recordSuccess]
    split <;> rfl
  | error e => exact policy_fail r c (some worker) e

end Registry

end LintPool
