import Mathlib.Data.List.Perm.Basic
import Mathlib.Data.List.Nodup
import LintPool.Registry.Basic

set_option autoImplicit false

/-!
# Slots as a finite map, and the workers in them

The slots are a list with at most one entry to a root. Here they are read as a map from roots to
slots, and the list of the workers in them is followed through every change: when one slot is set,
one worker at most leaves the list and one at most comes in.

## Main definitions

* `LintPool.Slot.workerId?` — the number of the worker in a slot.
* `LintPool.Slots.roots` — the roots that have a slot.

## Main results

* `LintPool.Slots.at?_set` — what is found after a slot was set.
* `LintPool.Slots.mem_iff_at?` — with one entry to a root, being listed is being found.
* `LintPool.Slots.workersOf_set` — the workers before and after a slot is set.
-/

namespace LintPool

/-- The number of the worker in a slot. -/
def Slot.workerId? (s : Slot) : Option WorkerId :=
  s.worker.map (·.id)

namespace Slots

/-- The roots that have a slot. -/
def roots (slots : Slots) : List Location :=
  slots.map (·.1)

/-! ## Slots as a map -/

/-- Looking at the first entry, and then at the others. -/
lemma at?_cons (root r : Location) (s : Slot) (slots : Slots) :
    at? ((r, s) :: slots) root = if r = root then some s else slots.at? root := by
  by_cases h : r = root <;> simp [at?, h]

/-- What is found at a root after some root was set. -/
lemma at?_set (root r : Location) (s : Slot) (slots : Slots) :
    (slots.set r s).at? root = if r = root then some s else slots.at? root := by
  induction slots with
  | nil => exact at?_cons root r s []
  | cons x rest ih =>
    obtain ⟨r', s'⟩ := x
    by_cases h : r' = r
    · subst h
      simp only [set, ↓reduceIte, at?_cons]
      split <;> rfl
    · simp only [set, if_neg h, at?_cons, ih]
      by_cases hr : r' = root
      · have hne : r ≠ root := fun e => h (hr.trans e.symm)
        simp [hr, hne]
      · simp [hr]

/-- Setting a root keeps the roots in order, and puts a new one last. -/
lemma roots_set (root : Location) (s : Slot) (slots : Slots) :
    (slots.set root s).roots =
      if root ∈ slots.roots then slots.roots else slots.roots ++ [root] := by
  induction slots with
  | nil => rfl
  | cons x rest ih =>
    obtain ⟨r, s'⟩ := x
    by_cases h : r = root
    · simp [set, roots, h]
    · have hne : root ≠ r := fun e => h e.symm
      simp only [roots] at ih
      by_cases hm : root ∈ rest.map (·.1)
      · simp only [set, if_neg h, roots, List.map_cons, ih, List.mem_cons, hne, hm, or_true,
          ↓reduceIte]
      · simp only [set, if_neg h, roots, List.map_cons, ih, List.mem_cons, hne, hm, or_self,
          ↓reduceIte, List.cons_append]

/-- Setting a root makes no second entry for any root. -/
lemma nodup_roots_set {slots : Slots} (h : slots.roots.Nodup) (root : Location) (s : Slot) :
    (slots.set root s).roots.Nodup := by
  rw [roots_set]
  split
  · exact h
  · rename_i hm
    exact List.nodup_append.2 ⟨h, List.nodup_singleton root, fun a ha b hb e =>
      hm (by rw [← List.mem_singleton.1 hb, ← e]; exact ha)⟩

/-- What is found is listed. -/
lemma mem_of_at? {slots : Slots} {root : Location} {s : Slot} (h : slots.at? root = some s) :
    (root, s) ∈ slots := by
  induction slots with
  | nil => simp [at?] at h
  | cons x rest ih =>
    obtain ⟨r, s'⟩ := x
    rw [at?_cons] at h
    split at h
    · rename_i hr
      cases h
      exact hr ▸ List.mem_cons_self
    · exact List.mem_cons_of_mem _ (ih h)

/-- With at most one entry to a root, being listed is being found. -/
lemma mem_iff_at? {slots : Slots} (h : slots.roots.Nodup) {root : Location} {s : Slot} :
    (root, s) ∈ slots ↔ slots.at? root = some s := by
  refine ⟨fun hm => ?_, mem_of_at?⟩
  induction slots with
  | nil => cases hm
  | cons x rest ih =>
    obtain ⟨r, s'⟩ := x
    simp only [roots, List.map_cons, List.nodup_cons] at h
    rw [at?_cons]
    rcases List.mem_cons.1 hm with heq | hm
    · cases heq
      simp
    · have hne : r ≠ root := by
        rintro rfl
        exact h.1 (List.mem_map.2 ⟨_, hm, rfl⟩)
      rw [if_neg hne]
      exact ih h.2 hm

/-- An entry after a root was set is the new one, or was there before. -/
lemma mem_set {slots : Slots} {root : Location} {s : Slot} {x : Location × Slot}
    (h : x ∈ slots.set root s) : x = (root, s) ∨ x ∈ slots := by
  induction slots with
  | nil => exact Or.inl (List.mem_singleton.1 h)
  | cons y rest ih =>
    obtain ⟨r, s'⟩ := y
    by_cases hr : r = root
    · simp only [set, if_pos hr, List.mem_cons] at h
      rcases h with h | h
      · exact Or.inl (hr ▸ h)
      · exact Or.inr (List.mem_cons_of_mem _ h)
    · simp only [set, if_neg hr, List.mem_cons] at h
      rcases h with h | h
      · exact Or.inr (List.mem_cons.2 (Or.inl h))
      · exact (ih h).imp id (List.mem_cons_of_mem _)

/-! ## The workers in the slots -/

/-- The workers of the first slot, and of the others. -/
lemma workersOf_cons (root : Location) (s : Slot) (slots : Slots) :
    Registry.workersOf ((root, s) :: slots) = s.workerId?.toList ++ Registry.workersOf slots := by
  unfold Registry.workersOf Slot.workerId?
  rw [List.filterMap_cons]
  cases s.worker <;> rfl

/-- A worker is among those of the slots when one of the slots holds it. -/
lemma mem_workersOf {slots : Slots} {w : WorkerId} :
    w ∈ Registry.workersOf slots ↔ ∃ x ∈ slots, x.2.workerId? = some w := by
  unfold Registry.workersOf Slot.workerId?
  exact List.mem_filterMap

/-- **Setting one slot**: the worker that was found at the root leaves, the worker of the new slot
comes in, and all others stay. -/
lemma workersOf_set (root : Location) (s : Slot) (slots : Slots) :
    (Registry.workersOf (slots.set root s) ++ ((slots.at? root).bind (·.workerId?)).toList).Perm
      (Registry.workersOf slots ++ s.workerId?.toList) := by
  induction slots with
  | nil =>
    rw [set, workersOf_cons]
    simp [at?, Registry.workersOf]
  | cons x rest ih =>
    obtain ⟨r, s'⟩ := x
    by_cases h : r = root
    · rw [set, if_pos h, at?_cons, if_pos h, workersOf_cons, workersOf_cons]
      refine List.perm_iff_count.2 fun w => ?_
      simp only [List.count_append, Option.bind_some]
      omega
    · rw [set, if_neg h, at?_cons, if_neg h, workersOf_cons, workersOf_cons, List.append_assoc,
        List.append_assoc]
      exact ih.append_left _

end Slots

end LintPool
