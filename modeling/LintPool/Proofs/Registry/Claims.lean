import LintPool.Proofs.Registry.Healths

set_option autoImplicit false

/-!
# The folders that claim a slot

A slot is made for a folder and notes the folders through which it is reached; it goes when the last
of them gives up its claim. So each slot is claimed by some folder, and only by folders that calls
came through. When a folder gives up its claims, the slots that it alone claims go, and their
workers are handed over; the others lose this claim and nothing else.

## Main definitions

* `LintPool.Slot.ClaimedBy`, `LintPool.Registry.Claimed` — slots are claimed, and only by folders of
  a kind.
* `LintPool.Slot.leftBy` — what is left of a slot when a folder gives up its claim.

## Main results

* `LintPool.Registry.Claimed.begin`, `LintPool.Registry.Claimed.afterCreation`,
  `LintPool.Registry.Claimed.afterWork` — the steps of a call claim for its own folder alone.
* `LintPool.Registry.Claimed.release` — a folder that gives up its claims has none left.
* `LintPool.Registry.at?_release`, `LintPool.Registry.mem_release` — what a folder that gives up its
  claims leaves in the slots, and which workers it hands over.
-/

namespace LintPool

/-- What is found at a root when some slots are left out. -/
lemma Slots.at?_filter {slots : Slots} (hn : slots.roots.Nodup) (keep : Slot → Bool)
    (root : Location) :
    Slots.at? (slots.filter fun x => keep x.2) root = (slots.at? root).filter keep := by
  have hn' : Slots.roots (slots.filter fun x => keep x.2) |>.Nodup :=
    (List.filter_sublist.map _).nodup hn
  refine Option.ext fun s => ?_
  rw [← Slots.mem_iff_at? hn', List.mem_filter, Slots.mem_iff_at? hn, Option.filter_eq_some_iff]

namespace Slot

/-- A slot is claimed by a folder at least, and only by folders of a kind. -/
structure ClaimedBy (kind : Location → Prop) (s : Slot) : Prop where
  /-- Some folder claims it. -/
  claimed : s.folders ≠ []
  /-- All folders that claim it are of the kind. -/
  all : ∀ folder ∈ s.folders, kind folder

/-- What is left of a slot when a folder gives up its claim: nothing if no other folder claims
it. -/
def leftBy (folder : Location) (s : Slot) : Option Slot :=
  if ∀ other ∈ s.folders, other = folder then none
  else some { s with folders := s.folders.filter (· ≠ folder) }

/-- Nothing is left of a slot that no other folder claims. -/
lemma leftBy_eq_none {s : Slot} {folder : Location} :
    s.leftBy folder = none ↔ ∀ other ∈ s.folders, other = folder := by
  unfold leftBy
  split
  · rename_i hall
    exact iff_of_true rfl hall
  · rename_i hother
    exact iff_of_false (by simp) hother

namespace ClaimedBy

variable {kind : Location → Prop} {s : Slot}

/-- A slot that is claimed by folders of a kind is claimed by those of a wider one. -/
lemma mono (h : s.ClaimedBy kind) {wider : Location → Prop}
    (hw : ∀ folder, kind folder → wider folder) : s.ClaimedBy wider :=
  ⟨h.claimed, fun folder hf => hw folder (h.all folder hf)⟩

/-- A slot is made for a folder. -/
lemma ofFolder {folder : Location} (hf : kind folder) : (Slot.ofFolder folder).ClaimedBy kind :=
  ⟨List.cons_ne_nil _ _, fun _ hm => List.mem_singleton.1 hm ▸ hf⟩

/-- A slot notes a folder. -/
lemma claim (h : s.ClaimedBy kind) {folder : Location} (hf : kind folder) :
    (s.claim folder).ClaimedBy kind := by
  unfold Slot.claim
  split
  · exact h
  · refine ⟨by simp, fun other hm => ?_⟩
    rcases List.mem_append.1 hm with hm | hm
    · exact h.all other hm
    · exact List.mem_singleton.1 hm ▸ hf

/-- A slot is claimed by one folder alone when it is claimed by no other. -/
lemma claimedOnlyBy_iff (h : s.ClaimedBy kind) {folder : Location} :
    Registry.claimedOnlyBy folder s = true ↔ ∀ other ∈ s.folders, other = folder := by
  simp only [Registry.claimedOnlyBy, Slot.belongsTo, Slot.release, Bool.and_eq_true,
    decide_eq_true_eq, List.isEmpty_iff, List.filter_eq_nil_iff, not_not]
  refine ⟨fun hall => hall.2, fun hall => ⟨?_, hall⟩⟩
  obtain ⟨other, hmem⟩ := List.exists_mem_of_ne_nil _ h.claimed
  exact List.contains_iff_mem.2 (hall other hmem ▸ hmem)

/-- A slot that another folder claims too stays claimed when a folder gives up its claim, but not by
this one. -/
lemma release (h : s.ClaimedBy kind) {folder : Location}
    (hother : ¬ Registry.claimedOnlyBy folder s = true) :
    (s.release folder).ClaimedBy fun other => kind other ∧ other ≠ folder := by
  rw [h.claimedOnlyBy_iff] at hother
  simp only [not_forall, exists_prop] at hother
  obtain ⟨other, hmem, hne⟩ := hother
  refine ⟨List.ne_nil_of_mem (List.mem_filter.2 ⟨hmem, decide_eq_true hne⟩), fun f hf => ?_⟩
  obtain ⟨hf, hne⟩ := List.mem_filter.1 hf
  exact ⟨h.all f hf, of_decide_eq_true hne⟩

end ClaimedBy

end Slot

namespace Registry

variable {α : Type}

/-- Each slot is claimed by a folder at least, and only by folders of a kind. -/
def Claimed (kind : Location → Prop) (r : Registry) : Prop :=
  ∀ x ∈ r.slots, x.2.ClaimedBy kind

namespace Claimed

variable {kind : Location → Prop} {r : Registry}

/-! ## Single steps -/

/-- Slots that are claimed by folders of a kind are claimed by those of a wider one. -/
lemma mono (h : r.Claimed kind) {wider : Location → Prop}
    (hw : ∀ folder, kind folder → wider folder) : r.Claimed wider :=
  fun x hx => (h x hx).mono hw

/-- The slot that is found at a root is claimed. -/
lemma of_at? (h : r.Claimed kind) {root : Location} {s : Slot} (hs : r.slots.at? root = some s) :
    s.ClaimedBy kind :=
  h _ (Slots.mem_of_at? hs)

/-- A slot may be set if it is claimed. -/
lemma set (h : r.Claimed kind) {root : Location} {s : Slot} (hs : s.ClaimedBy kind) :
    Claimed kind { r with slots := r.slots.set root s } := fun x hx => by
  rcases Slots.mem_set hx with rfl | hx
  · exact hs
  · exact h x hx

variable {c : WorkerContext}

/-- The slot that a context finds or makes is claimed. -/
lemma slotFor (h : r.Claimed kind) (hc : kind c.workspaceFolder.components) :
    (r.slotFor c).ClaimedBy kind := by
  unfold Registry.slotFor
  rcases hs : r.slots.at? c.workerRoot.components with _ | s
  · exact .ofFolder hc
  · exact h.of_at? hs

/-- Being let through or turned away claims for the folder of the call. -/
lemma enter (h : r.Claimed kind) (hc : kind c.workspaceFolder.components) (now : Instant) :
    (r.enter c now).2.Claimed kind :=
  have hslot := (h.slotFor hc).claim hc
  h.set ⟨hslot.claimed, hslot.all⟩

/-- A look into a slot. -/
lemma lookup (h : r.Claimed kind) (hc : kind c.workspaceFolder.components)
    (down : WorkerId → Bool) : (r.lookup down c).2.Claimed kind := by
  have hslot := h.slotFor hc
  unfold Registry.lookup
  dsimp only
  split
  · split
    · exact h.set hslot
    · exact h.set ⟨hslot.claimed, hslot.all⟩
  · exact h.set hslot

/-- A new worker offered to a slot. -/
lemma install (h : r.Claimed kind) (hc : kind c.workspaceFolder.components)
    (down : WorkerId → Bool) (w : WorkerId) : (r.install down c w).2.Claimed kind := by
  have hslot := h.slotFor hc
  unfold Registry.install
  dsimp only
  split
  · split
    · exact h.set hslot
    · exact h.set ⟨hslot.claimed, hslot.all⟩
  · exact h.set ⟨hslot.claimed, hslot.all⟩

/-- A success. -/
lemma recordSuccess (h : r.Claimed kind) (root : Location) :
    (r.recordSuccess root).Claimed kind := by
  unfold Registry.recordSuccess
  split
  · rename_i s hs
    have hslot := h.of_at? hs
    exact h.set ⟨hslot.claimed, hslot.all⟩
  · exact h

/-- A failure. -/
lemma recordFailure (h : r.Claimed kind) (root : Location) (worker : Option WorkerId)
    (e : WorkerError) : (r.recordFailure root worker e).2.Claimed kind := by
  unfold Registry.recordFailure
  split
  · exact h
  · split
    · exact h
    · rename_i s hs
      have hslot := h.of_at? hs
      dsimp only
      split <;> exact h.set ⟨hslot.claimed, hslot.all⟩

/-- **A folder that gives up its claims** has none left, and every slot is still claimed. -/
lemma release (h : r.Claimed kind) (folder : Location) :
    (r.release folder).2.Claimed fun other => kind other ∧ other ≠ folder := fun x hx => by
  simp only [Registry.release, List.partition_eq_filter_filter, List.mem_map,
    List.mem_filter] at hx
  obtain ⟨y, ⟨hy, hother⟩, rfl⟩ := hx
  exact (h y hy).release (by simpa using hother)

/-- A drain. -/
lemma drain : r.drain.2.Claimed kind := fun _ hx => absurd hx List.not_mem_nil

/-- Another chance for crashed roots. -/
lemma resetWhere (h : r.Claimed kind) (applies : Slot → Bool) :
    (r.resetWhere applies).Claimed kind := fun x hx => by
  simp only [Registry.resetWhere, List.mem_map] at hx
  obtain ⟨y, hy, rfl⟩ := hx
  have hslot := h y hy
  split
  · exact ⟨hslot.claimed, hslot.all⟩
  · exact hslot

/-! ## The steps of a call -/

/-- The first step of a call. -/
lemma begin (h : r.Claimed kind) (hc : kind c.workspaceFolder.components)
    (down : WorkerId → Bool) (now : Instant) :
    (r.begin down c now : Phase α × Registry).2.Claimed kind := by
  rcases registry_begin (α := α) r down c now with hr | hr <;> rw [hr]
  · exact h.enter hc now
  · exact (h.enter hc now).lookup hc down

/-- A failure, and what follows from it. -/
lemma fail (h : r.Claimed kind) (c : WorkerContext) (worker : Option WorkerId) (e : WorkerError) :
    (r.fail c worker e : Phase α × Registry).2.Claimed kind := by
  rw [registry_fail]
  exact h.recordFailure _ worker e

/-- The step after a creation. -/
lemma afterCreation (h : r.Claimed kind) (hc : kind c.workspaceFolder.components)
    (down : WorkerId → Bool) (created : Except WorkerError WorkerId) :
    (r.afterCreation down c created : Phase α × Registry).2.Claimed kind := by
  cases created with
  | error e => exact h.fail c none e
  | ok w =>
    rw [registry_afterCreation]
    exact h.install hc down w

/-- The step after the work. -/
lemma afterWork (h : r.Claimed kind) (c : WorkerContext) (worker : WorkerId)
    (outcome : Except WorkerError α) : (r.afterWork c worker outcome).2.Claimed kind := by
  cases outcome with
  | ok a => exact h.recordSuccess _
  | error e => exact h.fail c (some worker) e

end Claimed

/-! ## Giving up claims -/

/-- **What a folder that gives up its claims leaves**: of every slot what is left by it, and no slot
where there was none. -/
lemma at?_release {kind : Location → Prop} {r : Registry} (hn : r.slots.roots.Nodup)
    (h : r.Claimed kind) (folder root : Location) :
    (r.release folder).2.slots.at? root = (r.slots.at? root).bind (·.leftBy folder) := by
  have hkept : (r.release folder).2.slots =
      (r.slots.filter fun x => !claimedOnlyBy folder x.2).map
        fun x => (x.1, x.2.release folder) := by
    simp only [release, List.partition_eq_filter_filter]
    rfl
  rw [hkept, Slots.at?_map (·.release folder), Slots.at?_filter hn fun s => !claimedOnlyBy folder s]
  rcases hs : r.slots.at? root with _ | s
  · rfl
  · rw [Option.bind_some, Slot.leftBy, Option.filter_some]
    have honly : claimedOnlyBy folder s = true ↔ _ := (h.of_at? hs).claimedOnlyBy_iff
    by_cases hall : ∀ other ∈ s.folders, other = folder
    · rw [if_pos hall, honly.2 hall]
      rfl
    · rw [if_neg hall, if_pos (by simpa using fun hc => hall (honly.1 hc))]
      rfl

/-- **Which workers a folder that gives up its claims hands over**: those of the slots that it alone
claims. -/
lemma mem_release {kind : Location → Prop} {r : Registry} (hn : r.slots.roots.Nodup)
    (h : r.Claimed kind) {folder : Location} {w : WorkerId} :
    w ∈ (r.release folder).1 ↔ ∃ root s, r.slots.at? root = some s ∧
      s.leftBy folder = none ∧ s.workerId? = some w := by
  have hgone : (r.release folder).1 =
      workersOf (r.slots.filter fun x => claimedOnlyBy folder x.2) := by
    simp only [release, List.partition_eq_filter_filter]
  rw [hgone, Slots.mem_workersOf]
  constructor
  · rintro ⟨⟨root, s⟩, hx, hw⟩
    obtain ⟨hx, honly⟩ := List.mem_filter.1 hx
    exact ⟨root, s, (Slots.mem_iff_at? hn).1 hx,
      Slot.leftBy_eq_none.2 ((h _ hx).claimedOnlyBy_iff.1 honly), hw⟩
  · rintro ⟨root, s, hs, hgone, hw⟩
    have honly := (h.of_at? hs).claimedOnlyBy_iff.2 (Slot.leftBy_eq_none.1 hgone)
    exact ⟨(root, s), List.mem_filter.2 ⟨Slots.mem_of_at? hs, honly⟩, hw⟩

end Registry

end LintPool
