import Mathlib.Data.List.Basic
import Mathlib.Data.List.ReduceOption
import LintPool.Proofs.Pool.Outage

set_option autoImplicit false

/-!
# What the death of a worker counts

Every call that ends in a crash counts one against its root, even if others have told of the same
worker before. So the death of a worker counts once for each call that was on it. It cannot count
more often: once the first crash of a worker is recorded the worker is gone, and no further call is
handed it. A root is suppressed only after as many crashes as the threshold says, and these are of
as many workers and creations if no two calls were on a worker that crashed.

## Main definitions

* `LintPool.Pool.callsOn` — the number of calls on a worker.
* `LintPool.Pool.struck?` — the worker whose crash an event records.
* `LintPool.Pool.crashesOn`, `LintPool.Pool.advance` — the crashes of a worker in a run, and what
  they add to the count of a root.
* `LintPool.Pool.strikes` — the crashes of a root since it was last healthy.
* `LintPool.Pool.Alone` — no worker has two calls on it when it crashes.

## Main results

* `LintPool.Pool.callsOn_move` — a crash of a worker that is gone uses up a call.
* `LintPool.Pool.crashesOn_bound` — a worker crashes at most once for each call on it.
* `LintPool.Pool.earned_run` — the strikes of a root account for its health.
* `LintPool.Pool.death_counts_once_per_call` — what the death of a worker counts.
-/

namespace LintPool

/-! ## The crashes that stand against a root -/

namespace Health

/-- The crashes that stand against a root; a suppressed one has none left to count. -/
def crashes (h : Health) : Nat :=
  match h.standing with
  | .degraded crashes => crashes
  | _ => 0

/-- A number of crashes accounts for the health of a root. -/
structure Earned (policy : CrashPolicy) (h : Health) (n : Nat) : Prop where
  /-- It holds all crashes that stand against the root. -/
  counted : h.crashes ≤ n
  /-- If the root is suppressed it reaches the threshold. -/
  suppressed : ∀ expiry, h.standing = .suppressed expiry → policy.threshold ≤ n

/-- A crash counts at most one. -/
lemma crashes_recordCrash (h : Health) : h.recordCrash.crashes ≤ h.crashes + 1 := by
  rcases hs : h.standing with _ | crashes | expiry <;> simp only [recordCrash, Health.crashes, hs]
  · exact Nat.le_refl _
  · exact Nat.min_le_left _ _
  · exact Nat.zero_le _

namespace Earned

variable {policy : CrashPolicy} {h : Health} {n : Nat}

/-- Against a healthy root no crash stands. -/
lemma of_isHealthy (hh : h.isHealthy = true) (n : Nat) : h.Earned policy n := by
  have hs : h.standing = .healthy := of_decide_eq_true hh
  refine ⟨?_, fun expiry he => absurd (hs.symm.trans he) (by simp)⟩
  rw [crashes, hs]
  exact Nat.zero_le n

/-- A call asks to be let through. -/
lemma consider (he : h.Earned policy n) (root : Path) (now : Instant) :
    (h.consider policy root now).2.Earned policy n := by
  rcases hs : h.standing with _ | crashes | expiry
  · rwa [show (h.consider policy root now).2 = h by simp [Health.consider, hs]]
  · by_cases hlt : crashes < policy.threshold
    · rwa [show (h.consider policy root now).2 = h by simp [Health.consider, hs, hlt]]
    · have hn : crashes ≤ n := by
        have hcounted := he.counted
        rwa [Health.crashes, hs] at hcounted
      simp only [Health.consider, hs, if_neg hlt]
      exact ⟨Nat.zero_le _, fun _ _ => Nat.le_trans (Nat.le_of_not_lt hlt) hn⟩
  · have hn := he.suppressed expiry hs
    by_cases hlt : now.nanos < expiry.nanos
    · rwa [show (h.consider policy root now).2 = h by simp [Health.consider, hs, hlt]]
    · simp only [Health.consider, hs, if_neg hlt, afterCrashes]
      split
      · exact ⟨Nat.zero_le _, fun _ hc => by cases hc⟩
      · exact ⟨Nat.le_trans (Nat.sub_le _ _) hn, fun _ hc => by cases hc⟩

/-- Whatever happens; a crash is one more. -/
lemma after (he : h.Earned policy n) (x : Happening) :
    (x.after policy h).Earned policy (n + if x = .crash then 1 else 0) := by
  cases x with
  | call root now verdict => exact he.consider root now
  | crash =>
    refine ⟨Nat.le_trans (crashes_recordCrash h) (Nat.add_le_add_right he.counted 1),
      fun expiry hc => Nat.le_succ_of_le (he.suppressed expiry ?_)⟩
    rcases hs : h.standing with _ | crashes | expiry' <;>
      simp only [Happening.after, recordCrash, hs] at hc
    · cases hc
    · cases hc
    · exact hc
  | success => exact of_isHealthy rfl _
  | reset => exact of_isHealthy rfl _

end Earned

end Health

namespace Pool

open Registry

variable {α : Type}

/-! ## Crashes of a worker -/

/-- The number of calls on a worker: they work on it, or will when a disposal is done. -/
def callsOn (p : Pool α) (w : WorkerId) : Nat :=
  p.calls.countP fun x => x.2.2.chosen? = some w

/-- The worker whose crash an event records: the one that the call of the event works on. -/
def struck? (p : Pool α) : Event α → Option WorkerId
  | .worked task (.error e) =>
    match p.call? task with
    | some (_, .working w) => if e.isCrash then some w else none
    | _ => none
  | _ => none

/-- The number of crashes of a worker that a run records. -/
def crashesOn (w : WorkerId) (p : Pool α) : List (Moment α) → Nat
  | [] => 0
  | m :: ms =>
    (if p.struck? m.event = some w then 1 else 0) + crashesOn w (p.step m.down m.event) ms

/-- What the crashes of a worker add to the count of a root in a run. -/
def advance (w : WorkerId) (root : Location) (p : Pool α) : List (Moment α) → Nat
  | [] => 0
  | m :: ms =>
    let p' := p.step m.down m.event
    (if p.struck? m.event = some w then
      (p'.registry.healthOf root).crashes - (p.registry.healthOf root).crashes
    else 0) + advance w root p' ms

/-- No worker has two calls on it when it crashes, all through a run. -/
def Alone (p : Pool α) : List (Moment α) → Prop
  | [] => True
  | m :: ms =>
    (∀ w ∈ p.struck? m.event, p.callsOn w ≤ 1) ∧ Alone (p.step m.down m.event) ms

/-- Whether no worker has two calls on it when it crashes can be computed, moment by moment. -/
def decideAlone (p : Pool α) : (ms : List (Moment α)) → Decidable (p.Alone ms)
  | [] => instDecidableTrue
  | m :: ms =>
    have := decideAlone (p.step m.down m.event) ms
    inferInstanceAs (Decidable ((∀ w ∈ p.struck? m.event, p.callsOn w ≤ 1) ∧ _))

instance (p : Pool α) (ms : List (Moment α)) : Decidable (p.Alone ms) := decideAlone p ms

/-- A crash of a worker is what the work of a call on it comes to. -/
lemma struck?_eq_some {p : Pool α} {e : Event α} {w : WorkerId} (h : p.struck? e = some w) :
    ∃ task c failure, e = .worked task (.error failure) ∧ failure.isCrash = true ∧
      p.call? task = some (c, .working w) := by
  unfold struck? at h
  split at h
  · rename_i task failure
    split at h
    · rename_i c w' hcall
      split at h
      · rename_i hc
        cases h
        exact ⟨task, c, failure, rfl, hc, hcall⟩
      · cases h
    · cases h
  · cases h

/-! ## The calls on a worker that is gone -/

/-- Dropping a task leaves no more calls on a worker. -/
lemma callsOn_drop_le (p : Pool α) (task : TaskId) (w : WorkerId) :
    (p.drop task).callsOn w ≤ p.callsOn w :=
  List.filter_sublist.countP_le

/-- Dropping a call on a worker leaves one call fewer on it. -/
lemma callsOn_drop_lt {p : Pool α} {task : TaskId} {c : WorkerContext} {ph : Phase α}
    (hcall : p.call? task = some (c, ph)) {w : WorkerId} (hw : ph.chosen? = some w) :
    (p.drop task).callsOn w < p.callsOn w := by
  have hsplit : p.callsOn w = (p.drop task).callsOn w + _ :=
    List.countP_eq_countP_filter_add p.calls _ fun x => x.1 ≠ task
  have hone : 0 < (p.calls.filter fun x => !decide (x.1 ≠ task)).countP
      fun x => x.2.2.chosen? = some w :=
    List.countP_pos_iff.2
      ⟨(task, c, ph), List.mem_filter.2 ⟨mem_calls_of_call? hcall, by simp⟩, decide_eq_true hw⟩
  omega

/-- Bringing a call to a phase puts it on the worker that it has chosen then. -/
lemma callsOn_setCall (p : Pool α) (task : TaskId) (c : WorkerContext) (next : Phase α × Registry)
    (w : WorkerId) :
    (p.setCall task c next).callsOn w =
      (p.drop task).callsOn w + if next.1.chosen? = some w then 1 else 0 := by
  show List.countP _ (_ ++ [_]) = _
  rw [List.countP_append, List.countP_singleton]
  simp only [decide_eq_true_eq]
  rfl

/-- Bringing a call to a phase in which it has not chosen a worker puts no call on it. -/
lemma callsOn_setCall_le {p : Pool α} (task : TaskId) (c : WorkerContext)
    {next : Phase α × Registry} {w : WorkerId} (h : next.1.chosen? ≠ some w) :
    (p.setCall task c next).callsOn w ≤ (p.drop task).callsOn w := by
  rw [callsOn_setCall, if_neg h]
  exact Nat.le_refl _

/-- **A crash of a worker that is gone uses up a call on it**, and no move adds one. -/
lemma callsOn_move {p p' : Pool α} {down : WorkerId → Bool} {e : Event α} (hm : Move down p e p')
    {w : WorkerId} (hgone : w ∉ p'.registry.installed) :
    p'.callsOn w + (if p.struck? e = some w then 1 else 0) ≤ p.callsOn w := by
  -- only the work of a call records a crash
  have hquiet : (∀ task outcome, e ≠ .worked task outcome) → p'.callsOn w ≤ p.callsOn w →
      p'.callsOn w + (if p.struck? e = some w then 1 else 0) ≤ p.callsOn w := fun hno hle => by
    rw [if_neg fun hs => ?_]
    · exact hle
    · obtain ⟨task, c, failure, rfl, -⟩ := struck?_eq_some hs
      exact hno _ _ rfl
  cases hm with
  | begin task c now =>
    refine hquiet (by simp) (Nat.le_trans (callsOn_setCall_le task c fun hw => ?_)
      (callsOn_drop_le p task w))
    exact hgone (chosen_begin hw).2
  | created task c hcall =>
    refine hquiet (by simp) (Nat.le_trans (callsOn_setCall_le task c fun hw => ?_)
      (callsOn_drop_le p task w))
    exact hgone (chosen_afterCreation hw).2
  | notCreated task c failure hcall =>
    refine hquiet (by simp) (Nat.le_trans (callsOn_setCall_le task c ?_)
      (callsOn_drop_le p task w))
    simp [afterCreation, chosen_fail]
  | worked task c w' outcome hcall =>
    have hnext : (p.setCall task c (p.registry.afterWork c w' outcome)).callsOn w ≤
        (p.drop task).callsOn w := callsOn_setCall_le task c (by simp [chosen_afterWork])
    split
    · rename_i hs
      obtain ⟨task', c', failure, he, -, hcall'⟩ := struck?_eq_some hs
      cases he
      exact Nat.lt_of_le_of_lt hnext (callsOn_drop_lt hcall' rfl)
    · exact Nat.le_trans hnext (callsOn_drop_le p task w)
  | settled task c ph hcall =>
    refine hquiet (by simp) ?_
    rw [callsOn_setCall, Phase.chosen_afterDisposal]
    split
    · rename_i hw
      exact callsOn_drop_lt hcall hw
    · exact callsOn_drop_le p task w
  | cleared task | abandoned task | release task | drain task =>
    exact hquiet (by simp) (callsOn_drop_le p task w)
  | workspaceActivity | fileActivity => exact hquiet (by simp) (Nat.le_refl _)
  | idle e hno =>
    rw [if_neg fun hs => ?_]
    · exact Nat.le_refl _
    · obtain ⟨task, c, failure, rfl, -, hcall⟩ := struck?_eq_some hs
      exact hno ⟨c, w, hcall⟩

/-- A worker that is gone crashes at most once for each call on it. -/
lemma crashesOn_le_of_gone {p : Pool α} {w : WorkerId} (hgone : p.Gone w) (ms : List (Moment α)) :
    crashesOn w p ms ≤ p.callsOn w := by
  induction ms generalizing p with
  | nil => exact Nat.zero_le _
  | cons m ms ih =>
    have hm := move_step m.down p m.event
    have hcalls := callsOn_move hm (hgone.move hm).not_mem
    have hrest := ih (hgone.move hm)
    rw [crashesOn]
    omega

/-- A worker that crashes now crashes at most once for each call on it. -/
lemma crashesOn_le_of_struck {p : Pool α} (hk : p.Kept) {w : WorkerId} {m : Moment α}
    (hs : p.struck? m.event = some w) (ms : List (Moment α)) :
    crashesOn w p (m :: ms) ≤ p.callsOn w := by
  obtain ⟨task, c, failure, he, hc, hcall⟩ := struck?_eq_some hs
  have hgone : (p.step m.down m.event).Gone w := he ▸ hk.gone_of_crash hcall hc m.down
  have hcalls := callsOn_move (move_step m.down p m.event) hgone.not_mem
  have hrest := crashesOn_le_of_gone hgone ms
  rw [crashesOn]
  omega

/-- **A worker crashes at most once for each call on it** when it crashes first.

**Proof sketch.** Induction on the run up to the first crash of the worker, which makes it gone;
then every further crash uses up one of the calls on it. -/
lemma crashesOn_bound {p : Pool α} (hk : p.Kept) (w : WorkerId) (ms : List (Moment α)) :
    crashesOn w p ms = 0 ∨ ∃ ks m ls, ms = ks ++ m :: ls ∧ crashesOn w p ks = 0 ∧
      (p.run ks).struck? m.event = some w ∧ crashesOn w p ms ≤ (p.run ks).callsOn w := by
  induction ms generalizing p with
  | nil => exact .inl rfl
  | cons m ms ih =>
    by_cases hs : p.struck? m.event = some w
    · exact .inr ⟨[], m, ms, rfl, rfl, hs, crashesOn_le_of_struck hk hs ms⟩
    · rw [crashesOn, if_neg hs, Nat.zero_add]
      refine (ih (hk.move (move_step m.down p m.event))).imp id ?_
      rintro ⟨ks, m', ls, rfl, hnone, hs', hle⟩
      refine ⟨m :: ks, m', ls, rfl, ?_, hs', hle⟩
      rw [crashesOn, if_neg hs, Nat.zero_add, hnone]

/-- A worker that never has two calls on it when it crashes crashes once. -/
lemma crashesOn_le_one {p : Pool α} (hk : p.Kept) (w : WorkerId) {ms : List (Moment α)}
    (halone : p.Alone ms) : crashesOn w p ms ≤ 1 := by
  induction ms generalizing p with
  | nil => exact Nat.zero_le _
  | cons m ms ih =>
    by_cases hs : p.struck? m.event = some w
    · exact Nat.le_trans (crashesOn_le_of_struck hk hs ms) (halone.1 w hs)
    · rw [crashesOn, if_neg hs, Nat.zero_add]
      exact ih (hk.move (move_step m.down p m.event)) halone.2

/-! ## The count of a root -/

/-- A failure counts at most one against any root. -/
lemma crashes_fail_le (r : Registry) (c : WorkerContext) (worker : Option WorkerId)
    (e : WorkerError) (root : Location) :
    ((r.fail c worker e : Phase α × Registry).2.healthOf root).crashes ≤
      (r.healthOf root).crashes + 1 := by
  rw [registry_fail]
  rcases hs : (r.recordFailure c.workerRoot.components worker e).2.slots.at? root with _ | s
  · rw [healthOf, hs]
    exact Nat.zero_le _
  · rw [healthOf_recordFailure hs]
    split
    · exact Health.crashes_recordCrash _
    · exact Nat.le_succ _

/-- The crashes of a worker add at most one each to the count of a root. -/
lemma advance_le_crashesOn (w : WorkerId) (root : Location) (p : Pool α) (ms : List (Moment α)) :
    advance w root p ms ≤ crashesOn w p ms := by
  induction ms generalizing p with
  | nil => exact Nat.le_refl _
  | cons m ms ih =>
    refine Nat.add_le_add ?_ (ih _)
    split
    · rename_i hs
      obtain ⟨task, c, failure, he, -, hcall⟩ := struck?_eq_some hs
      have hstep : p.step m.down m.event =
          p.setCall task c (p.registry.fail c (some w) failure) := by
        simp only [he, step, hcall]
        rfl
      rw [hstep]
      exact Nat.sub_le_iff_le_add'.2 (crashes_fail_le p.registry c (some w) failure root)
    · exact Nat.le_refl _

/-! ## The strikes of a root -/

/-- The crashes of a root since it was last healthy, given earlier ones. Each is told with the
worker that crashed; a creation that failed has none. A success and a reset make a root healthy, and
a root without a slot is. -/
def strikes (root : Location) (p : Pool α) (past : List (Option WorkerId)) :
    List (Moment α) → List (Option WorkerId)
  | [] => past
  | m :: ms =>
    let p' := p.step m.down m.event
    let present :=
      if (p'.registry.healthOf root).isHealthy then []
      else if p.happening? root m.event = some .crash then past ++ [p.struck? m.event]
      else past
    strikes root p' present ms

/-- **The strikes of a root account for its health** after every run. -/
lemma earned_run {policy : CrashPolicy} {root : Location} {p : Pool α} (hk : p.Kept)
    (hpolicy : p.registry.policy = policy) {past : List (Option WorkerId)}
    (he : (p.registry.healthOf root).Earned policy past.length) (ms : List (Moment α)) :
    ((p.run ms).registry.healthOf root).Earned policy (strikes root p past ms).length := by
  induction ms generalizing p past with
  | nil => exact he
  | cons m ms ih =>
    have hm := move_step m.down p m.event
    rw [run_cons, strikes]
    refine ih (hk.move hm) ((policy_move hm).trans hpolicy) ?_
    split
    · rename_i hh
      exact .of_isHealthy hh _
    · rename_i hh
      rcases hs : (p.step m.down m.event).registry.slots.at? root with _ | s
      · exact absurd (by rw [healthOf, hs]; rfl) hh
      · rw [healthOf_move hk.filed.roots_nodup hm hs, hpolicy]
        rcases hx : p.happening? root m.event with _ | x
        · exact he
        · have hafter := he.after x
          by_cases hc : x = .crash
          · rw [if_pos hc] at hafter
            rwa [if_pos (congrArg some hc), List.length_append]
          · rw [if_neg hc] at hafter
            rwa [if_neg fun heq => hc (Option.some.inj heq)]

/-- A worker is not among the strikes more often than it crashes. -/
lemma count_strikes_le (w : WorkerId) (root : Location) (p : Pool α)
    (past : List (Option WorkerId)) (ms : List (Moment α)) :
    (strikes root p past ms).count (some w) ≤ past.count (some w) + crashesOn w p ms := by
  induction ms generalizing p past with
  | nil => exact Nat.le_refl _
  | cons m ms ih =>
    rw [strikes, crashesOn, ← Nat.add_assoc]
    refine Nat.le_trans (ih _ _) (Nat.add_le_add_right ?_ _)
    split
    · exact Nat.zero_le _
    · split
      · rw [List.count_append, List.count_singleton]
        simp only [beq_iff_eq]
        exact Nat.le_refl _
      · exact Nat.le_add_right _ _

/-- **What the death of a worker counts**, in every run: together, the crashes of a worker add to
the count of a root at most one for each call that is on the worker when its first crash is
recorded. A root is suppressed only if as many crashes as the threshold says were recorded for it
since it was last healthy; and these are of different workers, apart from creations that failed, if
no worker has two calls on it when it crashes. -/
theorem death_counts_once_per_call (s : Settings) :
    (∀ (ms : List (Moment α)) (w : WorkerId) (root : Location),
      advance w root (start s) ms = 0 ∨ ∃ ks m ls, ms = ks ++ m :: ls ∧
        crashesOn w (start s) ks = 0 ∧ ((start s).run ks).struck? m.event = some w ∧
        advance w root (start s) ms ≤ ((start s).run ks).callsOn w) ∧
    (∀ (ms : List (Moment α)) (root : Location) (expiry : Instant),
      (((start s).run ms).registry.healthOf root).standing = .suppressed expiry →
        (CrashPolicy.ofSettings s).threshold ≤ (strikes root (start s) [] ms).length) ∧
    (∀ (ms : List (Moment α)) (root : Location), (start s).Alone ms →
      (strikes root (start s) [] ms).reduceOption.Nodup) := by
  refine ⟨fun ms w root => ?_, fun ms root expiry hs => ?_, fun ms root halone => ?_⟩
  · have hle := advance_le_crashesOn w root (start s) ms
    rcases crashesOn_bound (Kept.start s) w ms with
      hzero | ⟨ks, m, ls, hms, hnone, hs, hbound⟩
    · exact .inl (Nat.le_zero.1 (hzero ▸ hle))
    · exact .inr ⟨ks, m, ls, hms, hnone, hs, Nat.le_trans hle hbound⟩
  · have hfresh : ((start s : Pool α).registry.healthOf root).Earned (.ofSettings s)
        ([] : List (Option WorkerId)).length := .of_isHealthy rfl _
    exact (earned_run (Kept.start s) rfl hfresh ms).suppressed expiry hs
  · refine List.nodup_iff_count_le_one.2 fun w => ?_
    have hcount := count_strikes_le w root (start s) [] ms
    have hone := crashesOn_le_one (Kept.start s) w halone
    rw [List.count_nil, Nat.zero_add] at hcount
    rw [List.reduceOption, List.count_filterMap]
    exact Nat.le_trans hcount hone

/-- Two workers of a root die under one call each; then a third call begins. -/
def oneOnEach : List (Moment Unit) :=
  [.calm (.begin 0 ownRoot ⟨0⟩), .calm (.created 0),
    .calm (.worked 0 (.error (.crashed ⟨"/w"⟩ ""))), .calm (.begin 1 ownRoot ⟨0⟩),
    .calm (.created 1), .calm (.worked 1 (.error (.crashed ⟨"/w"⟩ ""))),
    .calm (.begin 2 ownRoot ⟨1⟩)]

/-- The third call finds the root suppressed, for the deaths of two workers. -/
theorem death_counts_once_per_call_each :
    (((start .standard).run oneOnEach).registry.healthOf ownRoot.workerRoot.components).standing =
        .suppressed (expiryOf ⟨1⟩ (.ofSeconds 30)) ∧
      2 ≤ (strikes ownRoot.workerRoot.components (start .standard) [] oneOnEach).length ∧
      (start .standard).Alone oneOnEach ∧
      (strikes ownRoot.workerRoot.components (start .standard) [] oneOnEach).reduceOption.Nodup :=
  have hsuppressed : (((start .standard).run oneOnEach).registry.healthOf
      ownRoot.workerRoot.components).standing = .suppressed (expiryOf ⟨1⟩ (.ofSeconds 30)) := by
    decide +kernel
  have halone : (start .standard).Alone oneOnEach := by decide +kernel
  ⟨hsuppressed, (death_counts_once_per_call .standard).2.1 oneOnEach _ _ hsuppressed, halone,
    (death_counts_once_per_call .standard).2.2 _ _ halone⟩

/-- Two calls are on one worker when it dies; then a third one begins. -/
def twoOnOne : List (Moment Unit) :=
  [.calm (.begin 0 ownRoot ⟨0⟩), .calm (.created 0), .calm (.begin 1 ownRoot ⟨0⟩),
    .calm (.worked 0 (.error (.crashed ⟨"/w"⟩ ""))),
    .calm (.worked 1 (.error (.crashed ⟨"/w"⟩ ""))), .calm (.begin 2 ownRoot ⟨1⟩)]

/-- It is not so that the death of a worker counts once, whatever number of calls is on it; nor is
it so that a root is suppressed only after as many different workers or creations have failed as the
threshold says. -/
theorem not_death_counts_once :
    (¬ ∀ (s : Settings) (ms : List (Moment Unit)) (w : WorkerId) (root : Location),
      advance w root (start s) ms ≤ 1) ∧
    ¬ ∀ (s : Settings) (ms : List (Moment Unit)) (root : Location) (expiry : Instant),
      (((start s).run ms).registry.healthOf root).standing = .suppressed expiry →
        (CrashPolicy.ofSettings s).threshold ≤
          (strikes root (start s) [] ms).reduceOption.dedup.length +
            (strikes root (start s) [] ms).count none := by
  refine ⟨fun hall => ?_, fun hall => ?_⟩
  · exact absurd (hall .standard twoOnOne 0 ownRoot.workerRoot.components) (by decide +kernel)
  · have hsuppressed : (((start .standard).run twoOnOne).registry.healthOf
        ownRoot.workerRoot.components).standing =
          .suppressed (expiryOf ⟨1⟩ (.ofSeconds 30)) := by
      decide +kernel
    exact absurd (hall .standard twoOnOne _ _ hsuppressed) (by decide +kernel)

end Pool

end LintPool
