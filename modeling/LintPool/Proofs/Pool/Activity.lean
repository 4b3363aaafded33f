import LintPool.Proofs.Health.Likeness
import LintPool.Proofs.Pool.Outage

set_option autoImplicit false

/-!
# What activity clears

Activity in a folder makes the roots healthy that were reached through it and are not. Such a root
is like one that never crashed. A root that is healthy already is left as it is, and keeps the
outages that it has had. There are none, unless one crash is enough for an outage: then a call that
was let through after an outage, and neither crashed nor succeeded, leaves the root healthy with its
outages, and if they make the next one longer, activity does not clear them.

## Main definitions

* `LintPool.Pool.crashedOnce` — a run that leaves a root with a crash.
* `LintPool.Pool.hasty`, `LintPool.Pool.leftOver` — settings and a run that leave a healthy root
  with an outage.

## Main results

* `LintPool.Registry.alike_resetWhere` — when activity makes a root like one that never crashed.
* `LintPool.Pool.suppressions_of_healthy_run` — a healthy root has no outages left over, if one
  crash is not enough for an outage.
* `LintPool.Pool.activity_clears_iff` — what activity clears after every run.
-/

namespace LintPool

namespace Registry

/-- A slot contains the paths that lie in one of its folders. -/
lemma contains_iff {s : Slot} {path : Location} :
    s.contains path = true ↔ ∃ folder ∈ s.folders, folder <+: path := by
  simp only [Slot.contains, List.any_eq_true, List.isPrefixOf_iff_prefix]

/-- **When activity makes a root like one that never crashed**: when the root is not healthy, or the
outages that it has had do not make those to come longer. -/
lemma alike_resetWhere (settings : Settings) {r : Registry} (applies : Slot → Bool)
    {root : Location} {slot : Slot} (hs : r.slots.at? root = some slot)
    (happlies : applies slot = true) :
    ((r.resetWhere applies).healthOf root).Alike (.ofSettings settings) .fresh ↔
      (slot.health.standing = .healthy →
        (CrashPolicy.ofSettings settings).SamePace slot.health.suppressions 0) := by
  rw [healthOf_resetWhere applies hs, happlies, Bool.true_and]
  rcases hh : slot.health with ⟨standing, k⟩
  by_cases hstanding : standing = .healthy
  · subst hstanding
    simp only [Health.isHealthy, decide_true, Bool.not_true, Bool.false_eq_true, if_false,
      true_implies]
    exact Health.alike_fresh_iff settings k
  · simp only [Health.isHealthy, hstanding, decide_false, Bool.not_false, if_true,
      false_implies, iff_true]
    exact fun _ => Iff.rfl

end Registry

namespace Pool

open Registry

variable {α : Type}

/-- A healthy root has no outages left over, if one crash is not enough for an outage. -/
lemma suppressions_of_healthy_run (s : Settings)
    (hmany : (CrashPolicy.ofSettings s).threshold ≠ 1) (ms : List (Moment α)) (root : Location)
    (hh : (((start s).run ms).registry.healthOf root).standing = .healthy) :
    (((start s).run ms).registry.healthOf root).suppressions = 0 := by
  have hpos := CrashPolicy.threshold_pos s
  have hmore : 1 < (CrashPolicy.ofSettings s).threshold := by omega
  have hfresh : (start s : Pool α).registry.healthOf root =
      Health.fresh.replay (.ofSettings s) [] := rfl
  have hhistory := (healthOf_slotHistory (Kept.start s) rfl hfresh trivial ms).1
  rw [hhistory] at hh ⊢
  exact Health.suppressions_of_healthy hmore _ (fun _ => rfl) hh

/-- **What activity clears**, after every run: activity in a folder through which a root was
reached, and activity at a path in such a folder, makes the root like one that never crashed, so
that no history tells the two apart, if and only if the root is not healthy or the outages that it
has had do not make those to come longer. If one crash is not enough for an outage this is always
so. -/
theorem activity_clears_iff (s : Settings) (ms : List (Moment α)) (down : WorkerId → Bool)
    {root : Location} {slot : Slot}
    (hs : ((start s).run ms).registry.slots.at? root = some slot) :
    (∀ folder ∈ slot.folders,
      ((((start s).run ms).step down (.workspaceActivity folder)).registry.healthOf root).Alike
          (.ofSettings s) .fresh ↔
        (slot.health.standing = .healthy →
          (CrashPolicy.ofSettings s).SamePace slot.health.suppressions 0)) ∧
    (∀ path, (∃ folder ∈ slot.folders, folder <+: path) →
      (((((start s).run ms).step down (.fileActivity path)).registry.healthOf root).Alike
          (.ofSettings s) .fresh ↔
        (slot.health.standing = .healthy →
          (CrashPolicy.ofSettings s).SamePace slot.health.suppressions 0))) ∧
    ((CrashPolicy.ofSettings s).threshold ≠ 1 → slot.health.standing = .healthy →
      (CrashPolicy.ofSettings s).SamePace slot.health.suppressions 0) := by
  refine ⟨fun folder hfolder => ?_, fun path hpath => ?_, fun hmany hh => ?_⟩
  · exact alike_resetWhere s (·.belongsTo folder) hs (List.contains_iff_mem.2 hfolder)
  · exact alike_resetWhere s (·.contains path) hs (contains_iff.2 hpath)
  · have hzero := suppressions_of_healthy_run s hmany ms root
    rw [healthOf_of_at? hs] at hzero
    rw [hzero hh]
    exact fun _ => rfl

/-- A root has crashed once. -/
def crashedOnce : List (Moment Unit) :=
  [.calm (.begin 0 ownRoot ⟨0⟩), .calm (.created 0),
    .calm (.worked 0 (.error (.crashed ⟨"/w"⟩ "")))]

/-- Where two crashes make an outage, activity after the first makes the root like one that never
crashed. -/
theorem activity_clears_iff_crashedOnce :
    ((((start .standard).run crashedOnce).step (fun _ => false)
      (.workspaceActivity ownRoot.workspaceFolder.components)).registry.healthOf
        ownRoot.workerRoot.components).Alike (.ofSettings .standard) .fresh :=
  have hslot : ((start .standard).run crashedOnce).registry.slots.at?
      ownRoot.workerRoot.components =
        some ⟨[ownRoot.workspaceFolder.components], none, ⟨.degraded 1, 0⟩⟩ := rfl
  ((activity_clears_iff .standard crashedOnce (fun _ => false) hslot).1
    ownRoot.workspaceFolder.components (List.mem_singleton_self _)).2 fun hh => by cases hh

/-- Settings with which one crash is enough for an outage, and each outage is twice as long as the
one before. -/
def hasty : Settings :=
  { Settings.standard with crashThreshold := 1, suppressionBackoff := .ofNat 2 }

/-- A root has an outage, and the call that is let through after it comes to a linter error. -/
def leftOver : List (Moment Unit) :=
  [.calm (.begin 0 ownRoot ⟨0⟩), .calm (.created 0),
    .calm (.worked 0 (.error (.crashed ⟨"/w"⟩ ""))), .calm (.begin 1 ownRoot ⟨0⟩),
    .calm (.begin 2 ownRoot ⟨30 * Span.second⟩), .calm (.created 2),
    .calm (.worked 2 (.error (.failed "")))]

/-- It is not so that activity makes every root that it applies to like one that never crashed. -/
theorem not_activity_clears :
    ¬ ∀ (s : Settings) (ms : List (Moment Unit)) (down : WorkerId → Bool) (root folder : Location)
      (slot : Slot), ((start s).run ms).registry.slots.at? root = some slot →
        folder ∈ slot.folders →
          ((((start s).run ms).step down (.workspaceActivity folder)).registry.healthOf root).Alike
            (.ofSettings s) .fresh := fun hall => by
  have hslot : ((start hasty).run leftOver).registry.slots.at? ownRoot.workerRoot.components =
      some ⟨[ownRoot.workspaceFolder.components], some (.ofContext 1 ownRoot), ⟨.healthy, 1⟩⟩ := by
    decide +kernel
  have halike := hall hasty leftOver (fun _ => false) _ ownRoot.workspaceFolder.components _ hslot
    (List.mem_singleton_self _)
  have hpace := (alike_resetWhere hasty (·.belongsTo ownRoot.workspaceFolder.components) hslot
    (List.contains_iff_mem.2 (List.mem_singleton_self _))).1 halike rfl
  exact absurd (hpace 0) (by decide +kernel)

end Pool

end LintPool
