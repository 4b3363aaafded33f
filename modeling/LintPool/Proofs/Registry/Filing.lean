import LintPool.Proofs.Registry.Balance

set_option autoImplicit false

/-!
# Every worker under the root it was created for

A slot is found by its root alone, and a worker in it is used again when the environment it was
started for is the one that is asked for. So a call gets a worker of its own root only if every
worker is in the slot of the root it was created for, with the environment it was created for beside
it. That is what the registry keeps through each of its steps.

## Main definitions

* `LintPool.Registry.Filed` — every worker is in the slot of its root, with its environment.
* `LintPool.Registry.MadeFor` — a worker was created for a context like the one given.

## Main results

* `LintPool.Registry.Filed.begin`, `LintPool.Registry.Filed.afterCreation`,
  `LintPool.Registry.Filed.afterWork`, `LintPool.Registry.Filed.release` — what is kept.
* `LintPool.Registry.Filed.madeFor_begin`, `LintPool.Registry.Filed.madeFor_afterCreation` — the
  worker that a call chooses was created for a context like its own.
* `LintPool.Registry.Filed.not_mem_installed_fail` — a worker that crashed is in no slot afterwards.
-/

namespace LintPool

namespace Registry

variable {α : Type}

/-- A worker belongs to a root: it was created for a context of that root, and the environment noted
beside it is the one of that context. -/
def BelongsTo (created : List WorkerContext) (root : Location) (w : LiveWorker) : Prop :=
  ∃ c, created[w.id]? = some c ∧ c.workerRoot.components = root ∧ w = .ofContext w.id c

/-- A worker was created for a context with the root, the environment key and the Plug'n'Play
configuration of the one given. -/
def MadeFor (created : List WorkerContext) (w : WorkerId) (c : WorkerContext) : Prop :=
  ∃ c', created[w]? = some c' ∧ c'.workerRoot.Same c.workerRoot ∧
    c'.environmentKey = c.environmentKey ∧ samePnp c'.pnp c.pnp = true

/-- Every root has at most one slot, and the worker in a slot belongs to its root. -/
structure Filed (created : List WorkerContext) (r : Registry) : Prop where
  /-- Every root has at most one slot. -/
  roots_nodup : r.slots.roots.Nodup
  /-- The worker in a slot belongs to its root. -/
  belongs : ∀ root s, (root, s) ∈ r.slots → ∀ w, s.worker = some w → BelongsTo created root w

/-! ## Workers and contexts -/

/-- A worker that belongs to a root still does when more workers are created. -/
lemma BelongsTo.append {created : List WorkerContext} {root : Location} {w : LiveWorker}
    (h : BelongsTo created root w) (more : List WorkerContext) :
    BelongsTo (created ++ more) root w := by
  obtain ⟨c, hc, hrest⟩ := h
  have hlt : w.id < created.length := (List.getElem?_eq_some_iff.1 hc).1
  exact ⟨c, by rw [List.getElem?_append_left hlt, hc], hrest⟩

/-- What a worker was created for does not change when more workers are created. -/
lemma MadeFor.append {created : List WorkerContext} {w : WorkerId} {c : WorkerContext}
    (h : MadeFor created w c) (more : List WorkerContext) : MadeFor (created ++ more) w c := by
  obtain ⟨c', hc, hrest⟩ := h
  have hlt : w < created.length := (List.getElem?_eq_some_iff.1 hc).1
  exact ⟨c', by rw [List.getElem?_append_left hlt, hc], hrest⟩

/-- The newest worker was created for the context at the end of the list. -/
lemma madeFor_append_self (created : List WorkerContext) (c : WorkerContext) :
    MadeFor (created ++ [c]) created.length c :=
  ⟨c, by simp, rfl, rfl, samePnp_refl c.pnp⟩

/-- The newest worker belongs to the root of its context. -/
lemma belongsTo_append_self (created : List WorkerContext) (c : WorkerContext) :
    BelongsTo (created ++ [c]) c.workerRoot.components (.ofContext created.length c) :=
  ⟨c, by simp [LiveWorker.ofContext], rfl, rfl⟩

/-- A worker that belongs to the root of a context and is fit for it was made for it. -/
lemma BelongsTo.madeFor {created : List WorkerContext} {w : LiveWorker} {c : WorkerContext}
    {down : WorkerId → Bool} (h : BelongsTo created c.workerRoot.components w)
    (hs : w.serves down c = true) : MadeFor created w.id c := by
  obtain ⟨c', hc, hroot, hw⟩ := h
  simp only [LiveWorker.serves, Bool.and_eq_true, decide_eq_true_eq] at hs
  rw [hw] at hs
  exact ⟨c', hc, hroot, hs.1.1, hs.1.2⟩

namespace Filed

variable {created : List WorkerContext} {r : Registry}

/-! ## Single steps -/

/-- A registry without slots. -/
lemma ofSettings (s : Settings) : Filed [] (.ofSettings s) :=
  ⟨List.nodup_nil, fun _ _ h => absurd h List.not_mem_nil⟩

/-- More workers may be created. -/
lemma append (h : Filed created r) (more : List WorkerContext) : Filed (created ++ more) r :=
  ⟨h.roots_nodup, fun root s hs w hw => (h.belongs root s hs w hw).append more⟩

/-- A slot may be set if its worker belongs to the root. -/
lemma set (h : Filed created r) {root : Location} {s : Slot}
    (hs : ∀ w, s.worker = some w → BelongsTo created root w) :
    Filed created { r with slots := r.slots.set root s } := by
  refine ⟨Slots.nodup_roots_set h.roots_nodup root s, fun root' s' hm w hw => ?_⟩
  rcases Slots.mem_set hm with heq | hm
  · cases heq
    exact hs w hw
  · exact h.belongs root' s' hm w hw

/-- A worker found at a root belongs to it. -/
lemma belongsTo_of_at? (h : Filed created r) {root : Location} {s : Slot} {w : LiveWorker}
    (hs : r.slots.at? root = some s) (hw : s.worker = some w) : BelongsTo created root w :=
  h.belongs root s (Slots.mem_of_at? hs) w hw

/-- The worker in the slot of a context belongs to the root of the context. -/
lemma belongsTo_of_slotFor (h : Filed created r) {c : WorkerContext} {w : LiveWorker}
    (hw : (r.slotFor c).worker = some w) : BelongsTo created c.workerRoot.components w := by
  unfold slotFor at hw
  rcases hs : r.slots.at? c.workerRoot.components with _ | s
  · simp [hs, Slot.ofFolder] at hw
  · rw [hs] at hw
    exact h.belongsTo_of_at? hs hw

/-- Being let through or turned away. -/
lemma enter (h : Filed created r) (c : WorkerContext) (now : Instant) :
    Filed created (r.enter c now).2 := by
  refine h.set fun w hw => h.belongsTo_of_slotFor (c := c) ?_
  rw [← hw]
  show (r.slotFor c).worker = ((r.slotFor c).claim _).worker
  unfold Slot.claim
  split <;> rfl

/-- A look into a slot. -/
lemma lookup (h : Filed created r) (down : WorkerId → Bool) (c : WorkerContext) :
    Filed created (r.lookup down c).2 := by
  rcases hw : (r.slotFor c).worker with _ | w
  · simp only [Registry.lookup, hw]
    exact h.set fun w hw' => h.belongsTo_of_slotFor hw'
  · simp only [Registry.lookup, hw]
    split
    · exact h.set fun w hw' => h.belongsTo_of_slotFor hw'
    · exact h.set fun w hw' => by cases hw'

/-- A new worker offered to the slot of the context that it was created for. -/
lemma install (h : Filed created r) (down : WorkerId → Bool) {c : WorkerContext} {id : WorkerId}
    (hid : BelongsTo created c.workerRoot.components (.ofContext id c)) :
    Filed created (r.install down c id).2 := by
  rcases hw : (r.slotFor c).worker with _ | w
  · simp only [Registry.install, hw]
    exact h.set fun w hw' => by cases hw'; exact hid
  · simp only [Registry.install, hw]
    split
    · exact h.set fun w hw' => h.belongsTo_of_slotFor hw'
    · exact h.set fun w hw' => by cases hw'; exact hid

/-- A success. -/
lemma recordSuccess (h : Filed created r) (root : Location) :
    Filed created (r.recordSuccess root) := by
  unfold Registry.recordSuccess
  rcases hs : r.slots.at? root with _ | s
  · exact h
  · exact h.set fun w hw => h.belongsTo_of_at? hs hw

/-- A failure. -/
lemma recordFailure (h : Filed created r) (root : Location) (worker : Option WorkerId)
    (e : WorkerError) : Filed created (r.recordFailure root worker e).2 := by
  unfold Registry.recordFailure
  split
  · exact h
  · rcases hs : r.slots.at? root with _ | s
    · exact h
    · dsimp only
      split
      · exact h.set fun w hw => by cases hw
      · exact h.set fun w hw => h.belongsTo_of_at? hs hw

/-- A folder gives up its claims. -/
lemma release (h : Filed created r) (folder : Location) : Filed created (r.release folder).2 := by
  have hroots : (r.release folder).2.slots.roots =
      Slots.roots (r.slots.filter fun s => !claimedOnlyBy folder s.2) := by
    simp only [Registry.release, List.partition_eq_filter_filter, Slots.roots, List.map_map]
    rfl
  refine ⟨?_, fun root s hm w hw => ?_⟩
  · rw [hroots]
    exact (List.filter_sublist.map _).nodup h.roots_nodup
  · simp only [Registry.release, List.partition_eq_filter_filter, List.mem_map,
      List.mem_filter] at hm
    obtain ⟨x, ⟨hx, -⟩, heq⟩ := hm
    cases heq
    exact h.belongs x.1 x.2 hx w hw

/-- A drain. -/
lemma drain : Filed created r.drain.2 :=
  ⟨List.nodup_nil, fun _ _ h => absurd h List.not_mem_nil⟩

/-- Another chance for crashed roots. -/
lemma resetWhere (h : Filed created r) (applies : Slot → Bool) :
    Filed created (r.resetWhere applies) := by
  refine ⟨?_, fun root s hm w hw => ?_⟩
  · have hroots : (r.resetWhere applies).slots.roots = r.slots.roots := by
      simp only [Registry.resetWhere, Slots.roots, List.map_map]
      refine List.map_congr_left fun x _ => ?_
      simp only [Function.comp]
      split <;> rfl
    rw [hroots]
    exact h.roots_nodup
  · simp only [Registry.resetWhere, List.mem_map] at hm
    obtain ⟨x, hx, heq⟩ := hm
    split at heq <;> cases heq <;> exact h.belongs _ _ hx w hw

/-! ## The steps of a call -/

/-- The first step of a call. -/
lemma begin (h : Filed created r) (down : WorkerId → Bool) (c : WorkerContext) (now : Instant) :
    Filed created (r.begin down c now : Phase α × Registry).2 := by
  have he := h.enter c now
  unfold Registry.begin
  rcases hv : r.enter c now with ⟨_ | _, r'⟩ <;> rw [hv] at he
  · exact he
  · have hl := he.lookup down c
    dsimp only at hl ⊢
    rcases hf : r'.lookup down c with ⟨_ | _ | _, r''⟩ <;> rw [hf] at hl <;> exact hl

/-- A failure, and what follows from it. -/
lemma fail (h : Filed created r) (c : WorkerContext) (worker : Option WorkerId) (e : WorkerError) :
    Filed created (r.fail c worker e : Phase α × Registry).2 := by
  have hf := h.recordFailure c.workerRoot.components worker e
  unfold Registry.fail
  rcases hr : r.recordFailure c.workerRoot.components worker e with ⟨_ | _, r'⟩ <;>
    rw [hr] at hf <;> exact hf

/-- The step after a creation, when the list of contexts has grown by that of the new worker. -/
lemma afterCreation (h : Filed created r) (down : WorkerId → Bool) (c : WorkerContext) :
    Filed (created ++ [c])
      (r.afterCreation down c (.ok created.length) : Phase α × Registry).2 := by
  have hi := (h.append [c]).install down (belongsTo_append_self created c)
  simp only [Registry.afterCreation]
  rcases hr : r.install down c created.length with ⟨⟨_ | _⟩ | _, r'⟩ <;> rw [hr] at hi <;> exact hi

/-- The step after the work. -/
lemma afterWork (h : Filed created r) (c : WorkerContext) (worker : WorkerId)
    (outcome : Except WorkerError α) : Filed created (r.afterWork c worker outcome).2 := by
  cases outcome with
  | ok a => exact h.recordSuccess _
  | error e => exact h.fail c _ e

/-! ## The worker of a call -/

/-- A worker found fit was made for a context like the one given. -/
lemma madeFor_of_lookup_fit (h : Filed created r) {down : WorkerId → Bool} {c : WorkerContext}
    {w : WorkerId} (hf : (r.lookup down c).1 = .fit w) : MadeFor created w c := by
  obtain ⟨live, hw, hs, rfl⟩ := worker_of_lookup_fit hf
  exact (h.belongsTo_of_slotFor hw).madeFor hs

/-- A worker that won against a new one was made for a context like the one given. -/
lemma madeFor_of_theirs (h : Filed created r) {down : WorkerId → Bool} {c : WorkerContext}
    {id w : WorkerId} (hf : (r.install down c id).1 = .theirs w) : MadeFor created w c := by
  obtain ⟨live, hw, hs, rfl⟩ := worker_of_theirs hf
  exact (h.belongsTo_of_slotFor hw).madeFor hs

/-- A call that may run at once runs on a worker made for a context like its own. -/
lemma madeFor_begin (h : Filed created r) {down : WorkerId → Bool} {c : WorkerContext}
    {now : Instant} {w : WorkerId}
    (hc : (r.begin down c now : Phase α × Registry).1.chosen? = some w) :
    MadeFor created w c := by
  have he := h.enter c now
  unfold Registry.begin at hc
  rcases hv : r.enter c now with ⟨_ | _, r'⟩ <;> rw [hv] at hc he
  · cases hc
  · dsimp only at hc he
    rcases hf : r'.lookup down c with ⟨_ | _ | _, r''⟩ <;> rw [hf] at hc <;> cases hc
    exact he.madeFor_of_lookup_fit (congrArg Prod.fst hf)

/-- After a creation a call has chosen a worker made for a context like its own. -/
lemma madeFor_afterCreation (h : Filed created r) {down : WorkerId → Bool} {c : WorkerContext}
    {w : WorkerId}
    (hc : (r.afterCreation down c (.ok created.length) : Phase α × Registry).1.chosen? = some w) :
    MadeFor (created ++ [c]) w c := by
  simp only [Registry.afterCreation] at hc
  rcases hr : r.install down c created.length with ⟨⟨_ | _⟩ | _, r'⟩ <;> rw [hr] at hc <;> cases hc
  · exact madeFor_append_self created c
  · exact madeFor_append_self created c
  · exact (h.madeFor_of_theirs (congrArg Prod.fst hr)).append [c]

/-- **A worker that crashed is in no slot** once the crash is recorded: it belongs to the root of
the call that it ran for, and the slot of that root is the one that is cleared. -/
lemma not_mem_installed_fail (h : Filed created r) {c : WorkerContext} {w : WorkerId}
    {e : WorkerError} (hw : MadeFor created w c) (he : e.isCrash = true) :
    w ∉ (r.fail c (some w) e : Phase α × Registry).2.installed := by
  have hfiled := h.recordFailure c.workerRoot.components (some w) e
  have hsnd : (r.fail c (some w) e : Phase α × Registry).2 =
      (r.recordFailure c.workerRoot.components (some w) e).2 := by
    unfold Registry.fail
    split <;> rename_i heq <;> rw [heq]
  rw [hsnd]
  intro hm
  obtain ⟨⟨root, s⟩, hs, hid⟩ := Slots.mem_workersOf.1 hm
  -- the slot that holds the worker is the one of the root of the call
  obtain ⟨live, hlive, rfl⟩ := Option.map_eq_some_iff.1 hid
  obtain ⟨c₁, hc₁, hroot, -⟩ := hfiled.belongs root s hs live hlive
  obtain ⟨c₂, hc₂, hsame, -⟩ := hw
  rw [hc₁] at hc₂
  cases hc₂
  obtain rfl : c.workerRoot.components = root := hsame.symm.trans hroot
  rw [Slots.mem_iff_at? hfiled.roots_nodup] at hs
  -- and that slot holds another worker, or none
  simp only [Registry.recordFailure, he, Bool.not_true, Bool.false_eq_true, ↓reduceIte] at hs
  rcases ha : r.slots.at? c.workerRoot.components with _ | s₀
  · rw [ha] at hs
    simp [ha] at hs
  · simp only [ha] at hs
    split at hs
    · rw [Slots.at?_set, if_pos rfl] at hs
      cases hs
      cases hlive
    · rename_i hne
      rw [Slots.at?_set, if_pos rfl] at hs
      cases hs
      exact hne (by simp [show s₀.worker = some live from hlive])

end Filed

end Registry

end LintPool
