import LintPool.Proofs.Health.Schedule

set_option autoImplicit false

/-!
# Healths that no history tells apart

Two healths are alike when whatever calls, crashes, successes and resets come, the calls get the
same verdicts: they are let through or turned away alike, with the same notifications and the same
times to wait. A root on which no crash stands is like one that never crashed as long as the
outages that it has had do not make those to come longer. Such outages can only be left over when
one crash is enough for an outage.

## Main definitions

* `LintPool.Health.Alike` — no history tells two healths apart.
* `LintPool.CrashPolicy.SamePace` — after some outages the windows to come are those after others.
* `LintPool.Health.Paced` — two healths stand at the same point, at the same pace.

## Main results

* `LintPool.Health.Paced.alike` — healths at the same point and pace are alike.
* `LintPool.Health.samePace_of_alike` — at the threshold those that are alike have the same pace.
* `LintPool.Health.alike_fresh_iff` — when a healthy root is like one that never crashed.
* `LintPool.Health.suppressions_of_healthy` — when a healthy root has no outages left over.
-/

namespace LintPool

/-- After `m` outages the windows to come are those that come after `n` outages. -/
def CrashPolicy.SamePace (p : CrashPolicy) (m n : Nat) : Prop :=
  ∀ j, p.window (m + j + 1) = p.window (n + j + 1)

namespace CrashPolicy.SamePace

variable {p : CrashPolicy} {m n : Nat}

/-- The next windows are the same. -/
lemma window_eq (h : p.SamePace m n) : p.window (countUp m) = p.window (countUp n) :=
  calc p.window (countUp m) = p.window (m + 1) := p.window_countUp m 0
    _ = p.window (n + 1) := h 0
    _ = p.window (countUp n) := (p.window_countUp n 0).symm

/-- The pace stays the same when both have had one more outage. -/
lemma countUp (h : p.SamePace m n) : p.SamePace (countUp m) (countUp n) := fun j =>
  calc p.window (LintPool.countUp m + j + 1) = p.window (m + 1 + (j + 1)) :=
        p.window_countUp m (j + 1)
    _ = p.window (m + (j + 1) + 1) := by rw [Nat.add_right_comm]
    _ = p.window (n + (j + 1) + 1) := h (j + 1)
    _ = p.window (n + 1 + (j + 1)) := by rw [Nat.add_right_comm]
    _ = p.window (LintPool.countUp n + j + 1) := (p.window_countUp n (j + 1)).symm

end CrashPolicy.SamePace

namespace Health

variable {policy : CrashPolicy} {h h' : Health}

/-- No history tells two healths apart: whatever the one explains, the other does. -/
def Alike (policy : CrashPolicy) (h h' : Health) : Prop :=
  ∀ xs, h.Explains policy xs ↔ h'.Explains policy xs

/-- Two healths stand at the same point, and have the same windows to come. -/
structure Paced (policy : CrashPolicy) (h h' : Health) : Prop where
  /-- They stand at the same point. -/
  standing : h.standing = h'.standing
  /-- They have the same windows to come. -/
  pace : policy.SamePace h.suppressions h'.suppressions

/-! ## From the same pace to likeness -/

namespace Paced

/-- A call gets the same verdict, and leaves the same point and pace. -/
lemma consider (hp : h.Paced policy h') (root : Path) (now : Instant) :
    (h.consider policy root now).1 = (h'.consider policy root now).1 ∧
      (h.consider policy root now).2.Paced policy (h'.consider policy root now).2 := by
  obtain ⟨standing, k⟩ := h
  obtain ⟨standing', k'⟩ := h'
  obtain ⟨rfl, hpace⟩ := hp
  cases standing with
  | healthy => exact ⟨rfl, rfl, hpace⟩
  | degraded crashes =>
    simp only [Health.consider]
    split
    · exact ⟨rfl, rfl, hpace⟩
    · rw [hpace.window_eq]
      exact ⟨rfl, rfl, hpace.countUp⟩
  | suppressed expiry =>
    simp only [Health.consider]
    split
    · exact ⟨rfl, rfl, hpace⟩
    · exact ⟨rfl, rfl, hpace⟩

/-- Whatever happens leaves the same point and pace. -/
lemma after (hp : h.Paced policy h') (x : Happening) :
    (x.after policy h).Paced policy (x.after policy h') := by
  cases x with
  | call root now verdict => exact (hp.consider root now).2
  | crash =>
    obtain ⟨standing, k⟩ := h
    obtain ⟨standing', k'⟩ := h'
    obtain ⟨rfl, hpace⟩ := hp
    cases standing <;> exact ⟨rfl, hpace⟩
  | success => exact ⟨rfl, fun _ => rfl⟩
  | reset => exact ⟨rfl, fun _ => rfl⟩

/-- What the one explains, the other does. -/
lemma explains (hp : h.Paced policy h') {xs : List Happening} (hx : h.Explains policy xs) :
    h'.Explains policy xs := by
  induction xs generalizing h h' with
  | nil => trivial
  | cons x xs ih =>
    obtain ⟨hverdict, hrest⟩ := hx
    refine ⟨fun root now verdict hcall => ?_, ih (hp.after x) hrest⟩
    exact (hverdict root now verdict hcall).trans (hp.consider root now).1

/-- The same point and pace the other way round. -/
lemma symm (hp : h.Paced policy h') : h'.Paced policy h :=
  ⟨hp.standing.symm, fun j => (hp.pace j).symm⟩

/-- **Healths at the same point and pace are alike.** -/
lemma alike (hp : h.Paced policy h') : h.Alike policy h' := fun _ =>
  ⟨hp.explains, hp.symm.explains⟩

end Paced

/-! ## From likeness to the same pace -/

namespace Alike

/-- Healths that are alike stay so through a history that they explain. -/
lemma replay (ha : h.Alike policy h') {xs : List Happening} (hx : h.Explains policy xs) :
    (h.replay policy xs).Alike policy (h'.replay policy xs) := fun ys => by
  have hx' := (ha xs).1 hx
  have hboth := ha (xs ++ ys)
  rw [explains_append, explains_append] at hboth
  exact ⟨fun hy => (hboth.1 ⟨hx, hy⟩).2, fun hy => (hboth.2 ⟨hx', hy⟩).2⟩

/-- Healths that are alike have the same verdict on a call. -/
lemma verdict (ha : h.Alike policy h') (root : Path) (now : Instant) :
    (h.consider policy root now).1 = (h'.consider policy root now).1 := by
  have hx : h.Explains policy [.call root now (h.consider policy root now).1] := by
    refine ⟨fun _ _ _ hcall => ?_, trivial⟩
    cases hcall
    rfl
  exact ((ha _).1 hx).1 root now _ rfl

end Alike

/-- One outage, from one crash at the threshold to the next: a call is turned away with a
notification, a call at the end of the outage is let through, and crashes. -/
def outage (root : Path) (window : Span) : List Happening :=
  [.call root ⟨0⟩ (.error (.unavailable root window true)),
    .call root (expiryOf ⟨0⟩ window) (.ok ()), .crash]

/-- At the threshold an outage of the next window is explained, and leads back to the threshold. -/
lemma explains_outage (hpos : 0 < policy.threshold) (hmax : policy.threshold ≤ maxCount)
    (root : Path) {k : Nat} {window : Span} (hw : policy.window (countUp k) = window) :
    (Health.mk (afterCrashes policy.threshold) k).Explains policy (outage root window) ∧
      (Health.mk (afterCrashes policy.threshold) k).replay policy (outage root window) =
        ⟨afterCrashes policy.threshold, countUp k⟩ := by
  have hstart := consider_threshold hpos k root ⟨0⟩
  rw [hw] at hstart
  have hlast := recordCrash_afterCrashes (n := policy.threshold - 1) (by omega) (countUp k)
  rw [Nat.sub_add_cancel hpos] at hlast
  have hend : (Health.mk (.suppressed (expiryOf ⟨0⟩ window)) (countUp k)).consider policy root
      (expiryOf ⟨0⟩ window) = (.ok (), ⟨afterCrashes (policy.threshold - 1), countUp k⟩) := by
    simp only [consider, Nat.lt_irrefl, if_false]
  constructor
  · refine ⟨fun _ _ _ hcall => ?_, fun _ _ _ hcall => ?_, fun _ _ _ hcall => ?_, trivial⟩
    · cases hcall
      rw [hstart]
    · cases hcall
      simp only [Happening.after, hstart, hend]
    · cases hcall
  · simp only [Health.replay, outage, List.foldl_cons, List.foldl_nil, Happening.after, hstart,
      hend, hlast]

/-- At the threshold, healths that are alike have the same next window: the verdict on a call tells
it. -/
lemma Alike.window_eq (hpos : 0 < policy.threshold) {k k' : Nat}
    (ha : (Health.mk (afterCrashes policy.threshold) k).Alike policy
      ⟨afterCrashes policy.threshold, k'⟩) :
    policy.window (countUp k) = policy.window (countUp k') := by
  have hverdict := ha.verdict ⟨""⟩ ⟨0⟩
  rw [consider_threshold hpos, consider_threshold hpos] at hverdict
  simpa only [Except.error.injEq, WorkerError.unavailable.injEq, and_true, true_and]
    using hverdict

/-- **At the threshold, healths that are alike have the same pace.**

**Proof sketch.** Induction on the number of outages to come. The next one has the same window for
both, so it is the same history for both, and they are alike after it. -/
lemma samePace_of_alike (hpos : 0 < policy.threshold) (hmax : policy.threshold ≤ maxCount)
    {k k' : Nat} (ha : (Health.mk (afterCrashes policy.threshold) k).Alike policy
      ⟨afterCrashes policy.threshold, k'⟩) : policy.SamePace k k' := by
  intro j
  induction j generalizing k k' with
  | zero =>
    calc policy.window (k + 1) = policy.window (countUp k) := (policy.window_countUp k 0).symm
      _ = policy.window (countUp k') := ha.window_eq hpos
      _ = policy.window (k' + 1) := policy.window_countUp k' 0
  | succ j ih =>
    obtain ⟨hx, hafter⟩ := explains_outage hpos hmax ⟨""⟩ (k := k) rfl
    obtain ⟨-, hafter'⟩ := explains_outage hpos hmax ⟨""⟩ (ha.window_eq hpos).symm
    have hnext := ha.replay hx
    rw [hafter, hafter'] at hnext
    calc policy.window (k + (j + 1) + 1) = policy.window (k + 1 + (j + 1)) := by
          rw [Nat.add_right_comm]
      _ = policy.window (countUp k + j + 1) := (policy.window_countUp k (j + 1)).symm
      _ = policy.window (countUp k' + j + 1) := ih hnext
      _ = policy.window (k' + 1 + (j + 1)) := policy.window_countUp k' (j + 1)
      _ = policy.window (k' + (j + 1) + 1) := by rw [Nat.add_right_comm]

/-! ## Healthy roots -/

/-- Crashes without any call are explained by every health, and counted one by one. -/
lemma explains_crashes (policy : CrashPolicy) {n m : Nat} (hmax : n + m ≤ maxCount) (k : Nat) :
    (Health.mk (afterCrashes n) k).Explains policy (List.replicate m .crash) ∧
      (Health.mk (afterCrashes n) k).replay policy (List.replicate m .crash) =
        ⟨afterCrashes (n + m), k⟩ := by
  induction m generalizing n with
  | zero => exact ⟨trivial, rfl⟩
  | succ m ih =>
    have hcrash := recordCrash_afterCrashes (n := n) (by omega) k
    obtain ⟨hx, hreplay⟩ := ih (n := n + 1) (by omega)
    rw [← hcrash] at hx hreplay
    refine ⟨⟨fun _ _ _ hcall => (by cases hcall), hx⟩, ?_⟩
    rw [show n + (m + 1) = n + 1 + m by omega, ← hreplay]
    rfl

/-- **When a healthy root is like one that never crashed**: when the outages that it has had do not
make those to come longer. -/
theorem alike_fresh_iff (s : Settings) (k : Nat) :
    (Health.mk .healthy k).Alike (.ofSettings s) fresh ↔
      (CrashPolicy.ofSettings s).SamePace k 0 := by
  have hpos := CrashPolicy.threshold_pos s
  have hmax := CrashPolicy.threshold_le_maxCount s
  constructor
  · intro ha
    have hcrashes := explains_crashes (.ofSettings s) (n := 0)
      (m := (CrashPolicy.ofSettings s).threshold) (by omega)
    have hstart : (Health.mk (afterCrashes 0) k).Alike (.ofSettings s) ⟨afterCrashes 0, 0⟩ := ha
    have hthreshold := hstart.replay (hcrashes k).1
    rw [(hcrashes k).2, (hcrashes 0).2, Nat.zero_add] at hthreshold
    exact samePace_of_alike hpos hmax hthreshold
  · intro hpace
    exact Paced.alike ⟨rfl, hpace⟩

/-- A healthy root has no outages left over, if one crash is not enough for an outage: it became
healthy by a success or a reset. -/
lemma suppressions_of_healthy (hmany : 1 < policy.threshold) (xs : List Happening)
    (hh : h.standing = .healthy → h.suppressions = 0) :
    (h.replay policy xs).standing = .healthy → (h.replay policy xs).suppressions = 0 := by
  induction xs generalizing h with
  | nil => exact hh
  | cons x xs ih =>
    refine ih fun hs => ?_
    cases x with
    | call root now verdict =>
      obtain ⟨standing, k⟩ := h
      cases standing with
      | healthy => exact hh rfl
      | degraded crashes =>
        simp only [Happening.after, consider] at hs
        split at hs <;> cases hs
      | suppressed expiry =>
        simp only [Happening.after, consider] at hs
        split at hs
        · cases hs
        · rw [afterCrashes, if_neg (by omega)] at hs
          cases hs
    | crash =>
      obtain ⟨standing, k⟩ := h
      cases standing <;> cases hs
    | success => rfl
    | reset => rfl

end Health

end LintPool
