import LintPool.Proofs.Health.Clamping
import LintPool.Proofs.Health.Schedule
import LintPool.Proofs.Pool.Outage

set_option autoImplicit false

/-!
# What tells two policies apart

A pool looks at its policy for nothing but the threshold and the lengths of suppressions. So two
policies that agree on these come to the same in every run. And that is all that they can agree on:
where the thresholds or the lengths differ, a root that keeps crashing shows it. That says when
settings may be normalized before a pool is made of them.

## Main definitions

* `LintPool.Pool.withPolicy` — a pool with another policy.
* `LintPool.Pool.Alike` — no run of calls tells two pools apart.
* `LintPool.Pool.lone`, `LintPool.Pool.crashed` — pools with one root, which has no worker.
* `LintPool.Pool.asking`, `LintPool.Pool.crashing` — runs of one call for that root.
* `LintPool.Pool.relapse` — a root that crashes again after a suppression.

## Main results

* `LintPool.Pool.step_withPolicy`, `LintPool.Pool.run_withPolicy` — steps and runs with a policy
  that agrees are the same.
* `LintPool.Pool.run_crashing_crashed`, `LintPool.Pool.run_outage` — runs up to the threshold, and
  from one outage to the next.
* `LintPool.Pool.Alike.window_eq` — policies that no run tells apart have the same windows.
* `LintPool.Pool.alike_start_iff` — what tells two policies apart.
* `LintPool.Pool.normalized_alike_iff` — when normalizing the settings makes no difference.
-/

namespace LintPool

/-- Policies that agree consider every call alike. -/
lemma Health.consider_congr {p q : CrashPolicy} (h : p.Agrees q) (health : Health) (root : Path)
    (now : Instant) : health.consider p root now = health.consider q root now := by
  have hwindow : p.window = q.window := funext h.window
  unfold consider
  rw [h.threshold, hwindow]

namespace Registry

/-! ## Steps of the registry with another policy -/

variable {α : Type}

/-- The registry with another policy. -/
def withPolicy (r : Registry) (policy : CrashPolicy) : Registry := { r with policy }

variable {r : Registry} {policy : CrashPolicy}

/-- A call asks to be let through. -/
lemma enter_withPolicy (h : r.policy.Agrees policy) (c : WorkerContext) (now : Instant) :
    (r.withPolicy policy).enter c now =
      ((r.enter c now).1, (r.enter c now).2.withPolicy policy) := by
  have hsame := Health.consider_congr h
    ((r.slotFor c).claim c.workspaceFolder.components).health c.workerRoot now
  have hslot : (r.withPolicy policy).slotFor c = r.slotFor c := rfl
  have hpolicy : (r.withPolicy policy).policy = policy := rfl
  unfold enter
  rw [hslot, hpolicy]
  dsimp only
  rw [hsame]
  rfl

/-- A call looks for a worker. -/
lemma lookup_withPolicy (down : WorkerId → Bool) (c : WorkerContext) :
    (r.withPolicy policy).lookup down c =
      ((r.lookup down c).1, (r.lookup down c).2.withPolicy policy) := by
  have hslot : (r.withPolicy policy).slotFor c = r.slotFor c := rfl
  unfold lookup
  rw [hslot]
  dsimp only
  split
  · split <;> rfl
  · rfl

/-- A call puts in a worker. -/
lemma install_withPolicy (down : WorkerId → Bool) (c : WorkerContext) (created : WorkerId) :
    (r.withPolicy policy).install down c created =
      ((r.install down c created).1, (r.install down c created).2.withPolicy policy) := by
  have hslot : (r.withPolicy policy).slotFor c = r.slotFor c := rfl
  unfold install
  rw [hslot]
  dsimp only
  split
  · split <;> rfl
  · rfl

/-- A failure is recorded. -/
lemma recordFailure_withPolicy (root : Location) (worker : Option WorkerId) (e : WorkerError) :
    (r.withPolicy policy).recordFailure root worker e =
      ((r.recordFailure root worker e).1, (r.recordFailure root worker e).2.withPolicy policy) := by
  have hslots : (r.withPolicy policy).slots = r.slots := rfl
  unfold recordFailure
  rw [hslots]
  split
  · rfl
  · split
    · rfl
    · dsimp only
      split <;> rfl

/-- A success is recorded. -/
lemma recordSuccess_withPolicy (root : Location) :
    (r.withPolicy policy).recordSuccess root = (r.recordSuccess root).withPolicy policy := by
  have hslots : (r.withPolicy policy).slots = r.slots := rfl
  unfold recordSuccess
  rw [hslots]
  split <;> rfl

/-- A call fails. -/
lemma fail_withPolicy (c : WorkerContext) (worker : Option WorkerId) (e : WorkerError) :
    ((r.withPolicy policy).fail c worker e : Phase α × Registry) =
      ((r.fail c worker e).1, (r.fail c worker e : Phase α × Registry).2.withPolicy policy) := by
  unfold fail
  rw [recordFailure_withPolicy]
  rcases r.recordFailure c.workerRoot.components worker e with ⟨_ | _, r'⟩ <;> rfl

/-- A call begins. -/
lemma begin_withPolicy (h : r.policy.Agrees policy) (down : WorkerId → Bool) (c : WorkerContext)
    (now : Instant) :
    ((r.withPolicy policy).begin down c now : Phase α × Registry) =
      ((r.begin down c now).1, (r.begin down c now : Phase α × Registry).2.withPolicy policy) := by
  unfold begin
  rw [enter_withPolicy h]
  rcases r.enter c now with ⟨_ | _, r'⟩
  · rfl
  · dsimp only
    rw [lookup_withPolicy]
    rcases r'.lookup down c with ⟨_ | _ | _, r''⟩ <;> rfl

/-- A creation is over. -/
lemma afterCreation_withPolicy (down : WorkerId → Bool) (c : WorkerContext)
    (created : Except WorkerError WorkerId) :
    ((r.withPolicy policy).afterCreation down c created : Phase α × Registry) =
      ((r.afterCreation down c created).1,
        (r.afterCreation down c created : Phase α × Registry).2.withPolicy policy) := by
  cases created with
  | error e => exact fail_withPolicy c none e
  | ok w =>
    simp only [afterCreation, install_withPolicy]
    rcases r.install down c w with ⟨⟨_ | _⟩ | _, r'⟩ <;> rfl

/-- The work of a call is over. -/
lemma afterWork_withPolicy (c : WorkerContext) (worker : WorkerId)
    (outcome : Except WorkerError α) :
    (r.withPolicy policy).afterWork c worker outcome =
      ((r.afterWork c worker outcome).1, (r.afterWork c worker outcome).2.withPolicy policy) := by
  cases outcome with
  | error e => exact fail_withPolicy c (some worker) e
  | ok a => exact congrArg (Prod.mk _) (recordSuccess_withPolicy _)

end Registry

namespace Pool

open Registry

variable {α : Type}

/-! ## Runs with another policy -/

/-- The pool with another policy. -/
def withPolicy (p : Pool α) (policy : CrashPolicy) : Pool α :=
  { p with registry := p.registry.withPolicy policy }

variable {p : Pool α} {policy : CrashPolicy}

/-- **A step with a policy that agrees** is the same step. -/
lemma step_withPolicy (h : p.registry.policy.Agrees policy) (down : WorkerId → Bool)
    (e : Event α) : (p.withPolicy policy).step down e = (p.step down e).withPolicy policy := by
  have hcall (task : TaskId) : (p.withPolicy policy).call? task = p.call? task := rfl
  have htear (task : TaskId) : (p.withPolicy policy).teardown? task = p.teardown? task := rfl
  cases e with
  | begin task c now =>
    exact congrArg ((p.withPolicy policy).setCall task c) (begin_withPolicy h down c now)
  | created task =>
    simp only [step, hcall]
    split
    · rename_i c _
      exact congrArg ({ p.withPolicy policy with created := p.created ++ [c] }.setCall task c)
        (afterCreation_withPolicy down c _)
    · rfl
  | notCreated task e =>
    simp only [step, hcall]
    split
    · rename_i c _
      exact congrArg ((p.withPolicy policy).setCall task c) (afterCreation_withPolicy down c _)
    · rfl
  | worked task outcome =>
    simp only [step, hcall]
    split
    · rename_i c w _
      exact congrArg ((p.withPolicy policy).setCall task c) (afterWork_withPolicy c w outcome)
    · rfl
  | disposed task =>
    simp only [step, hcall, htear]
    split
    · split <;> rfl
    · split <;> rfl
  | abandoned task | release task folder | drain task | workspaceActivity folder
  | fileActivity path => rfl

/-- **A run with a policy that agrees** is the same run. -/
theorem run_withPolicy (h : p.registry.policy.Agrees policy) (ms : List (Moment α)) :
    (p.withPolicy policy).run ms = (p.run ms).withPolicy policy := by
  induction ms generalizing p with
  | nil => rfl
  | cons m ms ih =>
    rw [run_cons, step_withPolicy h]
    refine ih ?_
    rwa [policy_move (move_step m.down p m.event)]

/-! ## Pools that no run tells apart -/

/-- No run tells two pools apart: whatever comes about, the calls come to the same. -/
def Alike (p q : Pool α) : Prop :=
  ∀ ms, (p.run ms).calls = (q.run ms).calls

/-- Pools that are alike stay so through a run. -/
lemma Alike.run {q : Pool α} (h : p.Alike q) (ms : List (Moment α)) :
    (p.run ms).Alike (q.run ms) := by
  intro ns
  rw [← run_append, ← run_append]
  exact h (ms ++ ns)

/-- Another policy that agrees is not told apart. -/
lemma alike_withPolicy (h : p.registry.policy.Agrees policy) : p.Alike (p.withPolicy policy) := by
  intro ms
  rw [run_withPolicy h]
  rfl

/-! ## One root without a worker -/

/-- The slot of a root that has a health and no worker. -/
def loneSlot (health : Health) : Slot := ⟨[ownRoot.workspaceFolder.components], none, health⟩

/-- A registry with one such root. -/
def loneRoot (policy : CrashPolicy) (health : Health) : Registry :=
  ⟨policy, [(ownRoot.workerRoot.components, loneSlot health)]⟩

/-- A pool with one such root, and one call. -/
def lone (policy : CrashPolicy) (health : Health) (phase : Phase α) : Pool α where
  registry := loneRoot policy health
  created := []
  disposed := []
  calls := [(0, ownRoot, phase)]
  teardowns := []

/-- The phase that a call comes to at once when its root has no worker. -/
def phaseOf : Except WorkerError Unit → Phase α
  | .ok () => .creating
  | .error e => .finished (.error e)

variable {health health' : Health} {phase : Phase α} (down : WorkerId → Bool) (now : Instant)

/-- The slot of the lone root. -/
lemma slotFor_loneRoot : (loneRoot policy health).slotFor ownRoot = loneSlot health := by
  simp [slotFor, loneRoot, Slots.at?]

/-- Setting the slot of the lone root. -/
lemma setSlot_loneRoot :
    (loneRoot policy health).setSlot ownRoot (loneSlot health') = loneRoot policy health' := by
  simp [setSlot, loneRoot, Slots.set]

/-- A call finds no worker at the lone root. -/
lemma begin_of_enter {r : Registry} {verdict : Except WorkerError Unit}
    (h : r.enter ownRoot now = (verdict, loneRoot policy health)) :
    (r.begin down ownRoot now : Phase α × Registry) =
      (phaseOf verdict, loneRoot policy health) := by
  unfold begin
  rw [h]
  cases verdict with
  | error e => rfl
  | ok u =>
    have hlookup : (loneRoot policy health).lookup down ownRoot =
        (.vacant, loneRoot policy health) := by
      unfold lookup
      rw [slotFor_loneRoot]
      exact congrArg (Prod.mk _) setSlot_loneRoot
    dsimp only
    rw [hlookup]
    rfl

/-- A call for the lone root is considered on its health. -/
lemma enter_loneRoot :
    (loneRoot policy health).enter ownRoot now =
      ((health.consider policy ownRoot.workerRoot now).1,
        loneRoot policy (health.consider policy ownRoot.workerRoot now).2) := by
  have hclaim : (loneSlot health).claim ownRoot.workspaceFolder.components = loneSlot health := by
    simp [loneSlot, Slot.claim, Slot.belongsTo]
  unfold enter
  rw [slotFor_loneRoot, hclaim]
  exact congrArg (Prod.mk _) setSlot_loneRoot

/-- The first call of all makes its root the lone one. -/
lemma enter_ofSettings (s : Settings) :
    (Registry.ofSettings s).enter ownRoot now = (.ok (), loneRoot (.ofSettings s) .fresh) := by
  have hslot : ((Registry.ofSettings s).slotFor ownRoot).claim
      ownRoot.workspaceFolder.components = loneSlot .fresh := by
    simp [slotFor, Registry.ofSettings, Slots.at?, Slot.ofFolder, Slot.claim, Slot.belongsTo,
      loneSlot]
  unfold enter
  rw [hslot]
  rfl

/-- A call for the lone root begins. -/
lemma step_begin_lone :
    (lone policy health phase).step down (.begin 0 ownRoot now) =
      lone policy (health.consider policy ownRoot.workerRoot now).2
        (phaseOf (health.consider policy ownRoot.workerRoot now).1) := by
  have hdisposing (verdict : Except WorkerError Unit) :
      (phaseOf verdict : Phase α).disposing? = none := by
    rcases verdict with _ | _ <;> rfl
  have hbegin : ((loneRoot policy health).begin down ownRoot now : Phase α × Registry) = _ :=
    begin_of_enter down now (enter_loneRoot now)
  simp only [step, lone, hbegin, setCall, drop, hdisposing]
  simp

/-- So does the first call of all. -/
lemma step_begin_start (s : Settings) :
    (start s : Pool α).step down (.begin 0 ownRoot now) =
      lone (.ofSettings s) .fresh .creating := by
  have hbegin : ((Registry.ofSettings s).begin down ownRoot now : Phase α × Registry) = _ :=
    begin_of_enter down now (enter_ofSettings now s)
  simp only [step, start, ofRegistry, hbegin, setCall, drop]
  rfl

/-- The creation that the call waits for crashes. -/
lemma step_notCreated_lone {e : WorkerError} (h : e.isCrash = true) :
    (lone policy health (.creating : Phase α)).step down (.notCreated 0 e) =
      lone policy health.recordCrash (.finished (.error e)) := by
  have hfail : ((loneRoot policy health).fail ownRoot none e : Phase α × Registry) =
      (.finished (.error e), loneRoot policy health.recordCrash) := by
    simp [fail, recordFailure, h, loneRoot, loneSlot, Slots.at?, Slots.set]
  have hcall : (lone policy health (.creating : Phase α)).call? 0 = some (ownRoot, .creating) := rfl
  simp only [step, hcall, afterCreation]
  simp [lone, hfail, setCall, drop, Phase.disposing?]

/-! ## Crashes and outages of the lone root -/

/-- A call begins at some time. -/
def asking (now : Instant) : List (Moment α) := [.calm (.begin 0 ownRoot now)]

/-- A call begins at some time, and the creation that it waits for crashes. -/
def crashing (now : Instant) : List (Moment α) :=
  [.calm (.begin 0 ownRoot now), .calm (.notCreated 0 (.crashed ownRoot.workerRoot ""))]

/-- The lone root after some crashes and suppressions, where the last call has crashed. -/
def crashed (policy : CrashPolicy) (crashes suppressions : Nat) : Pool α :=
  lone policy ⟨Health.afterCrashes crashes, suppressions⟩
    (.finished (.error (.crashed ownRoot.workerRoot "")))

/-- A call for the lone root that is let through crashes. -/
lemma run_crashing_lone (h : health.consider policy ownRoot.workerRoot now = (.ok (), health')) :
    (lone policy health phase).run (crashing now) =
      lone policy health'.recordCrash (.finished (.error (.crashed ownRoot.workerRoot ""))) := by
  rw [crashing, run_cons, Moment.calm, step_begin_lone, h]
  exact step_notCreated_lone _ rfl

/-- The first call of all crashes. -/
lemma run_crashing_start (s : Settings) :
    (start s : Pool α).run (crashing now) = crashed (.ofSettings s) 1 0 := by
  rw [crashing, run_cons, Moment.calm, step_begin_start]
  exact step_notCreated_lone _ rfl

/-- Below the threshold calls crash one by one. -/
lemma run_crashing_crashed (hmax : policy.threshold ≤ maxCount) {crashes m : Nat}
    (h : crashes + m ≤ policy.threshold) (k : Nat) :
    (crashed policy crashes k : Pool α).run (List.replicate m (crashing now)).flatten =
      crashed policy (crashes + m) k := by
  induction m generalizing crashes with
  | zero => rfl
  | succ m ih =>
    have hlow : crashes < policy.threshold := by omega
    have hone : (crashed policy crashes k : Pool α).run (crashing now) =
        crashed policy (crashes + 1) k := by
      rw [crashed, run_crashing_lone now (Health.consider_afterCrashes hlow k _ now),
        Health.recordCrash_afterCrashes (by omega)]
      rfl
    rw [List.replicate_succ, List.flatten_cons, run_append, hone, ih (by omega),
      Nat.add_right_comm, Nat.add_assoc]

/-- At the threshold a call is turned away and starts an outage, and a call at the end of the outage
crashes. -/
lemma run_outage (hpos : 0 < policy.threshold) (hmax : policy.threshold ≤ maxCount) (k : Nat) :
    (crashed policy policy.threshold k : Pool α).run
        (asking now ++ crashing (expiryOf now (policy.window (countUp k)))) =
      crashed policy policy.threshold (countUp k) := by
  have hend : (Health.mk (.suppressed (expiryOf now (policy.window (countUp k))))
      (countUp k)).consider policy ownRoot.workerRoot (expiryOf now (policy.window (countUp k))) =
        (.ok (), ⟨Health.afterCrashes (policy.threshold - 1), countUp k⟩) := by
    simp only [Health.consider, Nat.lt_irrefl, if_false]
  have hlast := Health.recordCrash_afterCrashes (n := policy.threshold - 1) (by omega) (countUp k)
  rw [Nat.sub_add_cancel hpos] at hlast
  rw [run_append, asking, run_cons, Moment.calm, crashed, step_begin_lone,
    Health.consider_threshold hpos]
  refine (run_crashing_lone _ hend).trans ?_
  rw [hlast]
  rfl

/-! ## What tells two policies apart -/

namespace Alike

variable {q : Pool α} {policy' : CrashPolicy} {phase' : Phase α}

/-- If a pool is like another, that one is like it. -/
lemma symm (h : p.Alike q) : q.Alike p := fun ms => (h ms).symm

/-- Where no run tells the lone roots of two policies apart, the verdict on a call is the same. -/
lemma verdict (h : (lone policy health phase).Alike (lone policy' health' phase')) (now : Instant) :
    (health.consider policy ownRoot.workerRoot now).1 =
      (health'.consider policy' ownRoot.workerRoot now).1 := by
  have hcalls := h (asking now)
  simp only [asking, run_cons, Moment.calm, step_begin_lone] at hcalls
  have hphase : (phaseOf (health.consider policy ownRoot.workerRoot now).1 : Phase α) =
      phaseOf (health'.consider policy' ownRoot.workerRoot now).1 := by
    simpa [lone, Pool.run] using hcalls
  generalize (health.consider policy ownRoot.workerRoot now).1 = verdict at hphase
  generalize (health'.consider policy' ownRoot.workerRoot now).1 = verdict' at hphase
  rcases verdict with _ | _ <;> rcases verdict' with _ | _ <;> simp_all [phaseOf]

/-- After as many crashes as both thresholds allow, no run tells the policies apart. -/
lemma crashed {s t : Settings} (h : (start s : Pool α).Alike (start t)) {crashes : Nat}
    (hpos : 0 < crashes) (hs : crashes ≤ (CrashPolicy.ofSettings s).threshold)
    (ht : crashes ≤ (CrashPolicy.ofSettings t).threshold) :
    (Pool.crashed (.ofSettings s) crashes 0 : Pool α).Alike
      (Pool.crashed (.ofSettings t) crashes 0) := by
  have hall (u : Settings) (hu : crashes ≤ (CrashPolicy.ofSettings u).threshold) :
      (start u : Pool α).run
          (crashing ⟨0⟩ ++ (List.replicate (crashes - 1) (crashing ⟨0⟩)).flatten) =
        Pool.crashed (.ofSettings u) crashes 0 := by
    rw [run_append, run_crashing_start,
      run_crashing_crashed ⟨0⟩ (CrashPolicy.threshold_le_maxCount u) (by omega),
      Nat.add_sub_cancel' hpos]
  rw [← hall s hs, ← hall t ht]
  exact h.run _

/-- Settings whose policies no run tells apart do not have a lower threshold. -/
lemma threshold_le {s t : Settings} (h : (start s : Pool α).Alike (start t)) :
    (CrashPolicy.ofSettings t).threshold ≤ (CrashPolicy.ofSettings s).threshold := by
  have hpos := CrashPolicy.threshold_pos s
  by_contra hlt
  have hlow : (CrashPolicy.ofSettings s).threshold < (CrashPolicy.ofSettings t).threshold := by
    omega
  have hverdict := (h.crashed hpos le_rfl hlow.le).verdict ⟨0⟩
  rw [Health.consider_threshold hpos, Health.consider_afterCrashes hlow] at hverdict
  cases hverdict

/-- At the threshold, policies that no run tells apart have the same next window: the verdict on a
call tells it. -/
lemma next_window_eq (hsame : policy.threshold = policy'.threshold) (hpos : 0 < policy.threshold)
    {k : Nat} (h : (Pool.crashed policy policy.threshold k : Pool α).Alike
      (Pool.crashed policy' policy'.threshold k)) (now : Instant) :
    policy.window (countUp k) = policy'.window (countUp k) := by
  have hverdict := h.verdict now
  rw [Health.consider_threshold hpos, Health.consider_threshold (hsame ▸ hpos)] at hverdict
  simpa only [Except.error.injEq, WorkerError.unavailable.injEq, and_true, true_and]
    using hverdict

/-- **At the threshold, policies that no run tells apart have the same windows to come.**

**Proof sketch.** Induction on the number of outages to come. The next one has the same window with
both policies, so the same run leads through it, and no run tells them apart after it. -/
lemma window_eq (hsame : policy.threshold = policy'.threshold) (hpos : 0 < policy.threshold)
    (hmax : policy.threshold ≤ maxCount) {k : Nat}
    (h : (Pool.crashed policy policy.threshold k : Pool α).Alike
      (Pool.crashed policy' policy'.threshold k)) (now : Instant) (j : Nat) :
    policy.window (k + j + 1) = policy'.window (k + j + 1) := by
  have hnext := h.next_window_eq hsame hpos now
  induction j generalizing k now with
  | zero =>
    calc policy.window (k + 1) = policy.window (countUp k) := (policy.window_countUp k 0).symm
      _ = policy'.window (countUp k) := hnext
      _ = policy'.window (k + 1) := policy'.window_countUp k 0
  | succ j ih =>
    have hafter := h.run (asking now ++ crashing (expiryOf now (policy.window (countUp k))))
    rw [run_outage now hpos hmax, hnext, run_outage now (hsame ▸ hpos) (hsame ▸ hmax)] at hafter
    let later := expiryOf now (policy.window (countUp k))
    calc policy.window (k + (j + 1) + 1) = policy.window (k + 1 + (j + 1)) := by
          rw [Nat.add_right_comm]
      _ = policy.window (countUp k + j + 1) := (policy.window_countUp k (j + 1)).symm
      _ = policy'.window (countUp k + j + 1) :=
          ih hafter later (hafter.next_window_eq hsame hpos later)
      _ = policy'.window (k + 1 + (j + 1)) := policy'.window_countUp k (j + 1)
      _ = policy'.window (k + (j + 1) + 1) := by rw [Nat.add_right_comm]

end Alike

/-- **What tells two policies apart**: no run of calls tells the policies of two settings apart just
if they have the same threshold and the same windows. -/
theorem alike_start_iff (s t : Settings) :
    (start s : Pool α).Alike (start t) ↔
      (CrashPolicy.ofSettings s).Agrees (CrashPolicy.ofSettings t) := by
  have hpos := CrashPolicy.threshold_pos s
  constructor
  · intro h
    have hsame := Nat.le_antisymm h.symm.threshold_le h.threshold_le
    have hreached := h.crashed hpos le_rfl hsame.le
    have hthreshold : (crashed (.ofSettings t) (CrashPolicy.ofSettings s).threshold 0 : Pool α) =
        crashed (.ofSettings t) (CrashPolicy.ofSettings t).threshold 0 := by rw [hsame]
    rw [hthreshold] at hreached
    have hwindow := hreached.window_eq hsame hpos (CrashPolicy.threshold_le_maxCount s) ⟨0⟩
    refine ⟨hsame, fun n => ?_⟩
    cases n with
    | zero => exact hwindow 0
    | succ n =>
      have hn := hwindow n
      rwa [Nat.zero_add] at hn
  · intro h
    exact alike_withPolicy (p := start s) h

/-! ## Normalized settings -/

/-- **When normalizing the settings makes no difference**: no run of calls tells the settings from
the normalized ones if and only if the factor is not infinite, or the first suppression is the
longest one anyway. Then every run is the same in all but the policy itself. -/
theorem normalized_alike_iff (s : Settings) :
    ((∀ ms : List (Moment α), ((start s).run ms).calls = ((start s.normalized).run ms).calls) ↔
      (s.suppressionBackoff = .infinity →
        (CrashPolicy.ofSettings s).window 1 = (CrashPolicy.ofSettings s).longest)) ∧
    ((s.suppressionBackoff = .infinity →
        (CrashPolicy.ofSettings s).window 1 = (CrashPolicy.ofSettings s).longest) →
      ∀ ms : List (Moment α), (start s.normalized).run ms =
        ((start s).run ms).withPolicy (.ofSettings s.normalized)) := by
  have hagrees := CrashPolicy.agrees_normalized_iff s
  refine ⟨(alike_start_iff s s.normalized).trans hagrees, fun h ms => ?_⟩
  exact run_withPolicy (p := start s) (hagrees.2 h) ms

/-- Settings in which nothing makes sense, with a first suppression that is the longest. -/
def senseless : Settings :=
  { Settings.standard with
    crashThreshold := 0
    suppressionSecs := 60
    suppressionBackoff := .infinity
    maxSuppressionSecs := 5 }

/-- A root crashes twice, and is suppressed after either crash. -/
def relapse (window : Span) : List (Moment Unit) :=
  [.calm (.begin 0 ownRoot ⟨0⟩), .calm (.notCreated 0 (.crashed ⟨"/w"⟩ "")),
    .calm (.begin 1 ownRoot ⟨0⟩), .calm (.begin 2 ownRoot ⟨window.nanos⟩),
    .calm (.notCreated 2 (.crashed ⟨"/w"⟩ "")), .calm (.begin 3 ownRoot ⟨window.nanos⟩)]

/-- How long a call that was turned away is to wait. -/
def retryAfter? : Phase Unit → Option Span
  | .finished (.error (.unavailable _ retryAfter _)) => some retryAfter
  | _ => none

/-- The senseless settings and the normalized ones suppress the root for a minute each time. -/
theorem normalized_alike_iff_senseless :
    ((start senseless).run (relapse (.ofSeconds 60))).calls.map (fun x => retryAfter? x.2.2) =
        [none, some (.ofSeconds 60), none, some (.ofSeconds 60)] ∧
      ((start senseless).run (relapse (.ofSeconds 60))).calls =
        ((start senseless.normalized).run (relapse (.ofSeconds 60))).calls := by
  have hlongest : (CrashPolicy.ofSettings senseless).window 1 =
      (CrashPolicy.ofSettings senseless).longest := by
    decide +kernel
  exact ⟨by decide +kernel, (normalized_alike_iff senseless).1.2 (fun _ => hlongest) _⟩

/-- Settings with an infinite factor, and a first suppression that is not the longest. -/
def boundless : Settings :=
  { Settings.standard with
    crashThreshold := 1
    suppressionSecs := 10
    suppressionBackoff := .infinity
    maxSuppressionSecs := 300 }

/-- It is not so that normalizing the settings never makes a difference: the second suppression is
the longest one in one case, and as short as the first in the other. -/
theorem not_normalized_alike :
    ¬ ∀ (s : Settings) (ms : List (Moment Unit)),
      ((start s).run ms).calls = ((start s.normalized).run ms).calls := by
  intro hall
  have hraw : ((start boundless).run (relapse (.ofSeconds 10))).calls.map
      (fun x => retryAfter? x.2.2) = [none, some (.ofSeconds 10), none, some (.ofSeconds 300)] := by
    decide +kernel
  have hnormalized : ((start boundless.normalized).run (relapse (.ofSeconds 10))).calls.map
      (fun x => retryAfter? x.2.2) = [none, some (.ofSeconds 10), none, some (.ofSeconds 10)] := by
    decide +kernel
  rw [hall boundless, hnormalized] at hraw
  exact absurd hraw (by decide)

end Pool

end LintPool
