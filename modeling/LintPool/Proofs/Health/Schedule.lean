import Mathlib.Data.List.Basic
import LintPool.Proofs.Health.History

set_option autoImplicit false

/-!
# The schedule of a root that keeps crashing

When every call that is let through crashes, the verdicts on the calls for a root follow from their
times alone. As many calls crash as the threshold says. Then outages follow one another: a call is
turned away with a notification, the calls up to the end of the window are turned away quietly, and
the first one after it crashes and leads to the next outage.

## Main definitions

* `LintPool.Turn` — what becomes of a call that crashes whenever it is let through.
* `LintPool.CrashPolicy.outages`, `LintPool.CrashPolicy.schedule` — the turns of calls by their
  times.
* `LintPool.Visit` — a call that asks to be let through, and the verdict on it.

## Main results

* `LintPool.CrashPolicy.window_countUp` — counting outages stops, and their windows do not notice.
* `LintPool.Health.turns_of_suppressed`, `LintPool.Health.turns_at_threshold` — the turns during an
  outage, and from the next outage on.
* `LintPool.Health.turns_of_fresh` — the turns of a root that never crashed before.
-/

namespace LintPool

/-- What becomes of a call that crashes whenever it is let through. -/
inductive Turn where
  /-- It is let through, and crashes. -/
  | crash
  /-- It is turned away. -/
  | turnedAway (retryAfter : Span) (notifyUser : Bool)
  deriving Repr, DecidableEq

/-- The verdict on a call for a root, when this is its turn. -/
def Turn.verdict (root : Path) : Turn → Except WorkerError Unit
  | .crash => .ok ()
  | .turnedAway retryAfter notifyUser => .error (.unavailable root retryAfter notifyUser)

/-- A call that asks to be let through, and the verdict on it. -/
structure Visit where
  /-- The root that it is for. -/
  root : Path
  /-- When it comes. -/
  now : Instant
  /-- The verdict on it. -/
  verdict : Except WorkerError Unit
  deriving Repr, DecidableEq

/-- What a call means to its root if it crashes whenever it is let through. -/
def Visit.happenings (v : Visit) : List Happening :=
  .call v.root v.now v.verdict :: match v.verdict with
    | .ok () => [.crash]
    | .error _ => []

/-- A call takes its turn. -/
def Visit.Takes (v : Visit) (turn : Turn) : Prop :=
  v.verdict = turn.verdict v.root

namespace CrashPolicy

/-! ## Schedules -/

/-- Whether a time comes before the end of a suppression. -/
def isBefore (expiry now : Instant) : Bool :=
  now.nanos < expiry.nanos

/-- The turns of calls at some times, the first of which starts the `n`-th outage. -/
def outages (p : CrashPolicy) (n : Nat) : List Instant → List Turn
  | [] => []
  | start :: times =>
    let expiry := expiryOf start (p.window n)
    .turnedAway (p.window n) true ::
      ((times.takeWhile (isBefore expiry)).map (fun now => .turnedAway (expiry.since now) false) ++
        match hrest : times.dropWhile (isBefore expiry) with
        | [] => []
        | _ :: rest => .crash :: outages p (n + 1) rest)
termination_by times => times.length
decreasing_by
  have hle := (List.dropWhile_sublist (l := times)
    (isBefore (expiryOf start (p.window n)))).length_le
  rw [hrest] at hle
  simp only [List.length_cons] at hle ⊢
  omega

/-- The turns of calls at some times for a root that never crashed before: as many crashes as the
threshold says, and then one outage after the other. -/
def schedule (p : CrashPolicy) (times : List Instant) : List Turn :=
  (times.take p.threshold).map (fun _ => .crash) ++ p.outages 1 (times.drop p.threshold)

/-- The turns of calls at some times during the `n`-th outage. -/
def during (p : CrashPolicy) (n : Nat) (expiry : Instant) (times : List Instant) : List Turn :=
  (times.takeWhile (isBefore expiry)).map (fun now => .turnedAway (expiry.since now) false) ++
    match times.dropWhile (isBefore expiry) with
    | [] => []
    | _ :: rest => .crash :: p.outages (n + 1) rest

/-- An outage starts with a notification. -/
lemma outages_cons (p : CrashPolicy) (n : Nat) (start : Instant) (times : List Instant) :
    p.outages n (start :: times) =
      .turnedAway (p.window n) true :: p.during n (expiryOf start (p.window n)) times := by
  rw [outages, during]
  congr 2
  split <;> rename_i h <;> rw [h]

/-- During an outage a call that comes before its end is turned away quietly. -/
lemma during_cons_of_before (p : CrashPolicy) (n : Nat) {expiry now : Instant}
    (times : List Instant) (h : now.nanos < expiry.nanos) :
    p.during n expiry (now :: times) =
      .turnedAway (expiry.since now) false :: p.during n expiry times := by
  have hb : isBefore expiry now = true := decide_eq_true h
  simp only [during, List.takeWhile_cons_of_pos hb, List.dropWhile_cons_of_pos hb, List.map_cons,
    List.cons_append]

/-- The first call at or after the end of an outage crashes. -/
lemma during_cons_of_not_before (p : CrashPolicy) (n : Nat) {expiry now : Instant}
    (times : List Instant) (h : ¬ now.nanos < expiry.nanos) :
    p.during n expiry (now :: times) = .crash :: p.outages (n + 1) times := by
  have hb : ¬ isBefore expiry now = true := fun hb => h (of_decide_eq_true hb)
  simp only [during, List.takeWhile_cons_of_neg hb, List.dropWhile_cons_of_neg hb, List.map_nil,
    List.nil_append]

/-! ## Policies and windows -/

/-- The threshold of a policy is at least one. -/
lemma threshold_pos (s : Settings) : 0 < (ofSettings s).threshold :=
  Nat.le_max_right _ _

/-- The threshold of a policy can be counted up to. -/
lemma threshold_le_maxCount (s : Settings) : (ofSettings s).threshold ≤ maxCount := by
  have hlt : s.crashThreshold.toNat < 2 ^ 32 := s.crashThreshold.toNat_lt
  exact Nat.max_le.2 ⟨Nat.le_sub_one_of_lt hlt, by decide⟩

/-- Windows stop growing long before the outages can no longer be counted. -/
lemma window_min_maxCount (p : CrashPolicy) (n j : Nat) :
    p.window (min n maxCount + j) = p.window (n + j) := by
  have hmany : 65 ≤ maxCount := by decide
  have hg : growth (min n maxCount + j) = growth (n + j) := by
    unfold growth
    generalize maxCount = m at hmany
    omega
  unfold window window? secondsOf
  rw [hg]

/-- Counting outages stops, and their windows do not notice. -/
lemma window_countUp (p : CrashPolicy) (n j : Nat) :
    p.window (countUp n + j) = p.window (n + 1 + j) :=
  p.window_min_maxCount (n + 1) j

end CrashPolicy

/-- Counting on from a count that has stopped. -/
lemma countUp_min (n : Nat) : countUp (min n maxCount) = min (n + 1) maxCount := by
  unfold countUp
  generalize maxCount = m
  omega

namespace Health

variable {policy : CrashPolicy}

/-! ## One call -/

/-- The verdict on the first of some calls, and what the others find. -/
lemma explains_cons_visit (h : Health) (v : Visit) (vs : List Visit) :
    h.Explains policy ((v :: vs).flatMap Visit.happenings) ↔
      v.verdict = (h.consider policy v.root v.now).1 ∧
        (h.replay policy v.happenings).Explains policy (vs.flatMap Visit.happenings) := by
  rw [List.flatMap_cons, explains_append]
  refine and_congr_left fun _ => ⟨fun hx => hx.1 v.root v.now v.verdict rfl, fun hv => ?_⟩
  refine ⟨fun root now verdict hcall => ?_, ?_⟩
  · cases hcall
    exact hv
  · cases v.verdict with
    | error e => trivial
    | ok u => exact ⟨fun _ _ _ hcall => by simp at hcall, trivial⟩

/-- One more crash when one fewer than the largest count were counted. -/
lemma recordCrash_afterCrashes {n : Nat} (hn : n < maxCount) (k : Nat) :
    (Health.mk (afterCrashes n) k).recordCrash = ⟨afterCrashes (n + 1), k⟩ := by
  rcases Nat.eq_zero_or_pos n with rfl | hpos
  · rfl
  · have hcount : countUp n = n + 1 := Nat.min_eq_left hn
    simp only [afterCrashes, if_neg (Nat.ne_of_gt hpos), recordCrash, hcount, Nat.add_eq_zero_iff,
      Nat.one_ne_zero, and_false, if_false]

/-- Below the threshold a call is let through, and nothing changes. -/
lemma consider_afterCrashes {n : Nat} (hn : n < policy.threshold) (k : Nat) (root : Path)
    (now : Instant) :
    (Health.mk (afterCrashes n) k).consider policy root now = (.ok (), ⟨afterCrashes n, k⟩) := by
  rcases Nat.eq_zero_or_pos n with rfl | hpos
  · rfl
  · simp only [afterCrashes, if_neg (Nat.ne_of_gt hpos), consider, if_pos hn]

/-- At the threshold a call is turned away with a notification, and an outage starts. -/
lemma consider_threshold (hpos : 0 < policy.threshold) (k : Nat) (root : Path) (now : Instant) :
    (Health.mk (afterCrashes policy.threshold) k).consider policy root now =
      (.error (.unavailable root (policy.window (countUp k)) true),
        ⟨.suppressed (expiryOf now (policy.window (countUp k))), countUp k⟩) := by
  simp only [afterCrashes, if_neg (Nat.ne_of_gt hpos), consider, Nat.lt_irrefl, if_false]

/-! ## Many calls -/

/-- **The turns during an outage**, given the turns from the next one on. -/
lemma turns_of_suppressed (hpos : 0 < policy.threshold) (hmax : policy.threshold ≤ maxCount)
    {n : Nat} {expiry : Instant} {vs : List Visit}
    (hnext : ∀ ws : List Visit, ws.length < vs.length →
      (Health.mk (afterCrashes policy.threshold) (min n maxCount)).Explains policy
        (ws.flatMap Visit.happenings) →
      List.Forall₂ Visit.Takes ws (policy.outages (n + 1) (ws.map (·.now))))
    (hx : (Health.mk (.suppressed expiry) (min n maxCount)).Explains policy
      (vs.flatMap Visit.happenings)) :
    List.Forall₂ Visit.Takes vs (policy.during n expiry (vs.map (·.now))) := by
  induction vs with
  | nil => exact .nil
  | cons v vs ih =>
    obtain ⟨hv, hrest⟩ := (explains_cons_visit _ v vs).1 hx
    rw [consider_suppressed rfl] at hv
    rw [List.map_cons]
    by_cases hlt : v.now.nanos < expiry.nanos
    · rw [if_pos hlt] at hv
      have hstay : (Health.mk (.suppressed expiry) (min n maxCount)).replay policy v.happenings =
          ⟨.suppressed expiry, min n maxCount⟩ := by
        simp [replay, Visit.happenings, hv, Happening.after, consider, hlt]
      rw [hstay] at hrest
      rw [CrashPolicy.during_cons_of_before _ _ _ hlt]
      exact .cons hv (ih (fun ws hws => hnext ws (Nat.lt_succ_of_lt hws)) hrest)
    · rw [if_neg hlt] at hv
      have hcrash : (Health.mk (.suppressed expiry) (min n maxCount)).replay policy v.happenings =
          ⟨afterCrashes policy.threshold, min n maxCount⟩ := by
        have hlast := recordCrash_afterCrashes (n := policy.threshold - 1) (by omega)
          (min n maxCount)
        rw [Nat.sub_add_cancel hpos] at hlast
        simp [replay, Visit.happenings, hv, Happening.after, consider, hlt, hlast]
      rw [hcrash] at hrest
      rw [CrashPolicy.during_cons_of_not_before _ _ _ hlt]
      exact .cons hv (hnext vs (Nat.lt_succ_self _) hrest)

/-- **The turns from an outage on**: `n` outages have been, and the threshold is reached again.

**Proof sketch.** Strong induction on the number of calls. The first one starts the outage; the
turns during the outage end with a crash, which reaches the threshold again with fewer calls
left. -/
lemma turns_at_threshold (hpos : 0 < policy.threshold) (hmax : policy.threshold ≤ maxCount)
    (n : Nat) (vs : List Visit)
    (hx : (Health.mk (afterCrashes policy.threshold) (min n maxCount)).Explains policy
      (vs.flatMap Visit.happenings)) :
    List.Forall₂ Visit.Takes vs (policy.outages (n + 1) (vs.map (·.now))) := by
  induction hlen : vs.length using Nat.strongRecOn generalizing vs n with
  | ind len ih =>
    cases vs with
    | nil =>
      rw [List.map_nil, CrashPolicy.outages]
      exact .nil
    | cons v vs =>
      have hwindow : policy.window (countUp (min n maxCount)) = policy.window (n + 1) :=
        (policy.window_countUp _ 0).trans (policy.window_min_maxCount n 1)
      obtain ⟨hv, hrest⟩ := (explains_cons_visit _ v vs).1 hx
      rw [consider_threshold hpos, hwindow] at hv
      have hstart : (Health.mk (afterCrashes policy.threshold) (min n maxCount)).replay policy
          v.happenings =
            ⟨.suppressed (expiryOf v.now (policy.window (n + 1))), min (n + 1) maxCount⟩ := by
        simp only [replay, Visit.happenings, hv, List.foldl_cons, List.foldl_nil, Happening.after,
          consider_threshold hpos, hwindow]
        rw [countUp_min]
      rw [hstart] at hrest
      rw [List.map_cons, CrashPolicy.outages_cons]
      refine .cons hv (turns_of_suppressed hpos hmax (fun ws hws hws' => ?_) hrest)
      exact ih ws.length (by rw [← hlen]; exact Nat.lt_succ_of_lt hws) (n + 1) ws hws' rfl

/-- **The turns before the first outage**: `n` calls have crashed, and no outage has been. -/
lemma turns_below_threshold (hpos : 0 < policy.threshold) (hmax : policy.threshold ≤ maxCount)
    {n : Nat} (hn : n ≤ policy.threshold) {vs : List Visit}
    (hx : (Health.mk (afterCrashes n) 0).Explains policy (vs.flatMap Visit.happenings)) :
    List.Forall₂ Visit.Takes vs
      (((vs.map (·.now)).take (policy.threshold - n)).map (fun _ => .crash) ++
        policy.outages 1 ((vs.map (·.now)).drop (policy.threshold - n))) := by
  induction vs generalizing n with
  | nil =>
    rw [List.map_nil, List.take_nil, List.drop_nil, CrashPolicy.outages]
    exact .nil
  | cons v vs ih =>
    rcases Nat.lt_or_ge n policy.threshold with hlt | hge
    · obtain ⟨hv, hrest⟩ := (explains_cons_visit _ v vs).1 hx
      rw [consider_afterCrashes hlt] at hv
      have hcrash : (Health.mk (afterCrashes n) 0).replay policy v.happenings =
          ⟨afterCrashes (n + 1), 0⟩ := by
        simp [replay, Visit.happenings, hv, Happening.after, consider_afterCrashes hlt,
          recordCrash_afterCrashes (Nat.lt_of_lt_of_le hlt hmax)]
      rw [hcrash] at hrest
      have hleft : policy.threshold - n = policy.threshold - (n + 1) + 1 := by omega
      rw [List.map_cons, hleft, List.take_succ_cons, List.drop_succ_cons, List.map_cons,
        List.cons_append]
      exact .cons hv (ih hlt hrest)
    · obtain rfl : n = policy.threshold := Nat.le_antisymm hn hge
      rw [Nat.sub_self, List.take_zero, List.drop_zero, List.map_nil, List.nil_append]
      exact turns_at_threshold hpos hmax 0 (v :: vs) hx

/-- **The turns of a root that never crashed before** are those of the schedule. -/
theorem turns_of_fresh (s : Settings) {vs : List Visit}
    (hx : fresh.Explains (.ofSettings s) (vs.flatMap Visit.happenings)) :
    List.Forall₂ Visit.Takes vs ((CrashPolicy.ofSettings s).schedule (vs.map (·.now))) :=
  turns_below_threshold (CrashPolicy.threshold_pos s) (CrashPolicy.threshold_le_maxCount s)
    (Nat.zero_le _) hx

end Health

end LintPool
