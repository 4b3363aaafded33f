import LintPool.Proofs.Health.History
import LintPool.Proofs.Pool.Handing
import LintPool.Proofs.Registry.Healths

set_option autoImplicit false

/-!
# Outages of a root

Whatever calls, teardowns and activity make of a pool, the health of a root is what the history of
its slot makes of it: the calls for the root with the verdicts they got, the crashes and successes
that were recorded for it, and the activity that made it healthy again. The history begins anew when
the slot goes. So what holds of every history holds of every slot in every run.

## Main definitions

* `LintPool.Pool.happening?` — what an event means to the health of a root.
* `LintPool.Pool.slotHistory` — the history of the slot of a root.

## Main results

* `LintPool.Pool.healthOf_move` — a move changes the health of a root as it should.
* `LintPool.Pool.healthOf_slotHistory` — the history explains the health.
* `LintPool.Pool.finished_run` — a call that is over stays so.
* `LintPool.Pool.one_notification_per_outage` — what a user and what callers see of an outage.
-/

namespace LintPool

/-- What the outcome of a call means to the health of its root. -/
def Happening.ofOutcome {α : Type} : Except WorkerError α → Option Happening
  | .ok _ => some .success
  | .error e => if e.isCrash then some .crash else none

namespace Pool

open Registry

variable {α : Type}

/-! ## Histories of slots -/

/-- What activity means to the health of a root. -/
def waking? (r : Registry) (root : Location) (applies : Slot → Bool) : Option Happening :=
  match r.slots.at? root with
  | some s => if applies s && !s.health.isHealthy then some .reset else none
  | none => none

/-- What an event means to the health of a root. -/
def happening? (p : Pool α) (root : Location) : Event α → Option Happening
  | .begin _ c now =>
    if c.workerRoot.components = root then
      some (.call c.workerRoot now (p.registry.enter c now).1)
    else none
  | .notCreated task e =>
    match p.call? task with
    | some (c, .creating) =>
      if c.workerRoot.components = root then
        Happening.ofOutcome (.error e : Except WorkerError α)
      else none
    | _ => none
  | .worked task outcome =>
    match p.call? task with
    | some (c, .working _) =>
      if c.workerRoot.components = root then Happening.ofOutcome outcome else none
    | _ => none
  | .workspaceActivity folder => waking? p.registry root (·.belongsTo folder)
  | .fileActivity path => waking? p.registry root (·.contains path)
  | _ => none

/-- The history of the slot of a root, given its past: it begins anew when the slot goes. -/
def slotHistory (root : Location) (p : Pool α) (past : List Happening) :
    List (Moment α) → List Happening
  | [] => past
  | m :: ms =>
    let p' := p.step m.down m.event
    let present := match p'.registry.slots.at? root with
      | some _ => past ++ (p.happening? root m.event).toList
      | none => []
    slotHistory root p' present ms

/-! ## What one moment does -/

/-- A move keeps the policy. -/
lemma policy_move {p p' : Pool α} {down : WorkerId → Bool} {e : Event α} (hm : Move down p e p') :
    p'.registry.policy = p.registry.policy := by
  cases hm with
  | begin => exact policy_begin ..
  | created => exact policy_afterCreation ..
  | notCreated => exact policy_afterCreation ..
  | worked => exact policy_afterWork ..
  | settled => rfl
  | cleared => rfl
  | abandoned => rfl
  | release => rfl
  | drain => rfl
  | workspaceActivity => rfl
  | fileActivity => rfl
  | idle => rfl

/-- A failure means to the health of a root what it changes there. -/
lemma healthOf_fail_replay {r : Registry} {c : WorkerContext} {worker : Option WorkerId}
    {e : WorkerError} {root : Location} {s : Slot}
    (h : (r.fail c worker e : Phase α × Registry).2.slots.at? root = some s) :
    (r.fail c worker e : Phase α × Registry).2.healthOf root =
      (r.healthOf root).replay r.policy (if c.workerRoot.components = root then
        Happening.ofOutcome (.error e : Except WorkerError α) else none).toList := by
  rw [registry_fail] at h ⊢
  rw [healthOf_recordFailure h]
  by_cases hr : c.workerRoot.components = root
  · by_cases he : e.isCrash
    · simp [hr, he, Happening.ofOutcome, Health.replay, Happening.after]
    · simp [hr, he, Happening.ofOutcome, Health.replay]
  · simp [hr, Health.replay]

/-- Activity means to the health of a root what it changes there. -/
lemma healthOf_resetWhere_replay {r : Registry} {applies : Slot → Bool} {root : Location} {s : Slot}
    (h : (r.resetWhere applies).slots.at? root = some s) :
    (r.resetWhere applies).healthOf root =
      (r.healthOf root).replay r.policy (waking? r root applies).toList := by
  rw [at?_resetWhere, Option.map_eq_some_iff] at h
  obtain ⟨s', hs, -⟩ := h
  rw [healthOf_resetWhere applies hs, healthOf_of_at? hs]
  simp only [waking?, hs]
  split <;> rfl

/-- **A move changes the health of a root** that still has a slot as the event should. -/
lemma healthOf_move {p p' : Pool α} (hn : p.registry.slots.roots.Nodup) {down : WorkerId → Bool}
    {e : Event α} (hm : Move down p e p') {root : Location} {s : Slot}
    (h : p'.registry.slots.at? root = some s) :
    p'.registry.healthOf root =
      (p.registry.healthOf root).replay p.registry.policy (p.happening? root e).toList := by
  cases hm with
  | begin task c now =>
    refine (healthOf_begin ..).trans ((healthOf_enter ..).trans ?_)
    simp only [happening?]
    split <;> rfl
  | created task c hcall => exact healthOf_afterCreation ..
  | notCreated task c e hcall =>
    simp only [happening?, hcall]
    exact healthOf_fail_replay h
  | worked task c w outcome hcall =>
    simp only [happening?, hcall]
    cases outcome with
    | ok a =>
      refine (healthOf_recordSuccess ..).trans ?_
      split <;> rfl
    | error e => exact healthOf_fail_replay h
  | settled => rfl
  | cleared => rfl
  | abandoned => rfl
  | release task folder => exact healthOf_release hn folder h
  | drain => cases h
  | workspaceActivity folder => exact healthOf_resetWhere_replay h
  | fileActivity path => exact healthOf_resetWhere_replay h
  | idle e hno =>
    have hnone : p.happening? root e = none := by
      cases e with
      | notCreated task e =>
        simp only [happening?]
        split
        · rename_i c hcall
          exact absurd ⟨c, hcall⟩ hno
        · rfl
      | worked task outcome =>
        simp only [happening?]
        split
        · rename_i c w hcall
          exact absurd ⟨c, w, hcall⟩ hno
        · rfl
      | created | disposed => rfl
      | begin | abandoned | release | drain | workspaceActivity | fileActivity =>
        exact absurd trivial hno
    rw [hnone]
    rfl

/-- Only a call that begins adds a call to a history, with the verdict on it. -/
lemma begin_of_happening? {p : Pool α} {root : Location} {e : Event α} {path : Path}
    {now : Instant} {verdict : Except WorkerError Unit}
    (h : p.happening? root e = some (.call path now verdict)) :
    ∃ c, c.workerRoot = path ∧ path.components = root ∧ verdict = (p.registry.enter c now).1 := by
  have houtcome : ∀ outcome : Except WorkerError α,
      Happening.ofOutcome outcome ≠ some (.call path now verdict) := fun outcome => by
    cases outcome with
    | ok a => simp [Happening.ofOutcome]
    | error e => by_cases he : e.isCrash <;> simp [Happening.ofOutcome, he]
  have hwaking : ∀ applies, waking? p.registry root applies ≠ some (.call path now verdict) :=
    fun applies => by
      unfold waking?
      split
      · split <;> simp
      · simp
  have hif : ∀ {b : Prop} [Decidable b] {x : Option Happening},
      (if b then x else none) = some (.call path now verdict) →
        b ∧ x = some (.call path now verdict) := fun {b} _ x hx => by
    split at hx
    · rename_i hb
      exact ⟨hb, hx⟩
    · cases hx
  cases e with
  | begin task c now' =>
    obtain ⟨hr, hx⟩ := hif h
    cases hx
    exact ⟨c, rfl, hr, rfl⟩
  | notCreated task e =>
    simp only [happening?] at h
    split at h
    · exact absurd (hif h).2 (houtcome _)
    · cases h
  | worked task outcome =>
    simp only [happening?] at h
    split at h
    · exact absurd (hif h).2 (houtcome _)
    · cases h
  | workspaceActivity folder => exact absurd h (hwaking _)
  | fileActivity path => exact absurd h (hwaking _)
  | created | disposed | abandoned | release | drain => cases h

/-- The verdict that an event adds to a history is that of the policy. -/
lemma explains_happening? (p : Pool α) (root : Location) (e : Event α) :
    (p.registry.healthOf root).Explains p.registry.policy (p.happening? root e).toList := by
  rcases hx : p.happening? root e with _ | x
  · trivial
  · refine ⟨fun path now verdict hcall => ?_, trivial⟩
    subst hcall
    obtain ⟨c, rfl, rfl, rfl⟩ := begin_of_happening? hx
    exact verdict_enter p.registry c now

/-! ## Runs -/

/-- **The history explains the health**: after every run the health of a root is what the history of
its slot makes of it, and the verdicts in the history are those of the policy.

**Proof sketch.** Induction on the run. As long as the slot is there, a moment adds to the history
what it means to the health; when the slot goes, the root counts as one that never crashed, and so
does the empty history. -/
lemma healthOf_slotHistory {policy : CrashPolicy} {root : Location} {p : Pool α}
    {past : List Happening} (hk : p.Kept) (hpolicy : p.registry.policy = policy)
    (hh : p.registry.healthOf root = Health.fresh.replay policy past)
    (hx : Health.fresh.Explains policy past) (ms : List (Moment α)) :
    (p.run ms).registry.healthOf root =
        Health.fresh.replay policy (slotHistory root p past ms) ∧
      Health.fresh.Explains policy (slotHistory root p past ms) := by
  induction ms generalizing p past with
  | nil => exact ⟨hh, hx⟩
  | cons m ms ih =>
    have hm := move_step m.down p m.event
    have hpolicy' := (policy_move hm).trans hpolicy
    rw [run_cons, slotHistory]
    rcases hs : (p.step m.down m.event).registry.slots.at? root with _ | s
    · refine ih (hk.move hm) hpolicy' ?_ trivial
      rw [healthOf, hs]
      rfl
    · have hmove := healthOf_move hk.filed.roots_nodup hm hs
      have hverdict := explains_happening? p root m.event
      rw [hh, hpolicy] at hmove hverdict
      refine ih (hk.move hm) hpolicy' ?_ ((Health.explains_append _ _ _).2 ⟨hx, hverdict⟩)
      rw [hmove, Health.replay_append]

/-- The health of a root in a run from the start. -/
lemma explains_slotHistory (s : Settings) (root : Location) (ms : List (Moment α)) :
    Health.fresh.Explains (.ofSettings s) (slotHistory root (start s) [] ms) := by
  have hfresh : (start s : Pool α).registry.healthOf root =
      Health.fresh.replay (.ofSettings s) [] := rfl
  exact (healthOf_slotHistory (Kept.start s) rfl hfresh trivial ms).2

/-! ## Calls that are over -/

/-- Whatever goes by a number is a call that is over with an outcome. -/
def Ended (p : Pool α) (task : TaskId) (outcome : Except WorkerError α) : Prop :=
  ∀ c ph, p.call? task = some (c, ph) → ph = .finished outcome

/-- A call that is over stays so, until another one begins under its number. -/
lemma Ended.move {p p' : Pool α} {task : TaskId} {outcome : Except WorkerError α}
    (h : p.Ended task outcome) {down : WorkerId → Bool} {e : Event α} (hm : Move down p e p')
    (hno : ∀ c now, e ≠ .begin task c now) : p'.Ended task outcome := by
  intro c ph hcall
  by_cases ht : e.task? = some task
  · cases hm with
    | begin task' c' now =>
      cases ht
      exact absurd rfl (hno c' now)
    | created task' c' hcall' | notCreated task' c' e hcall' | worked task' c' w outcome hcall' =>
      cases ht
      exact absurd (h _ _ hcall') (by simp)
    | settled task' c' ph' hcall' hph =>
      cases ht
      rw [h _ _ hcall'] at hph
      cases hph
    | cleared | abandoned | release | drain =>
      cases ht
      exact absurd ((call?_drop_self ..).symm.trans hcall) (by simp)
    | workspaceActivity | fileActivity => cases ht
    | idle => exact h c ph hcall
  · rw [call?_move hm ht] at hcall
    exact h c ph hcall

/-- A call that is over stays so through every run in which no other begins under its number. -/
lemma Ended.run {p : Pool α} {task : TaskId} {outcome : Except WorkerError α}
    (h : p.Ended task outcome) {ms : List (Moment α)}
    (hno : ∀ m ∈ ms, ∀ c now, m.event ≠ .begin task c now) : (p.run ms).Ended task outcome := by
  induction ms generalizing p with
  | nil => exact h
  | cons m ms ih =>
    exact ih (h.move (move_step m.down p m.event) (hno m List.mem_cons_self))
      fun m' hm' => hno m' (List.mem_cons_of_mem _ hm')

/-- A call that is turned away is over at once, and neither creates nor disposes of a worker. -/
lemma begin_of_error {p : Pool α} (down : WorkerId → Bool) (task : TaskId) {c : WorkerContext}
    {now : Instant} {e : WorkerError} (h : (p.registry.enter c now).1 = .error e) :
    (p.step down (.begin task c now)).call? task = some (c, .finished (.error e)) ∧
      (p.step down (.begin task c now)).created = p.created ∧
      (p.step down (.begin task c now)).disposed = p.disposed := by
  have hbegin : (p.registry.begin down c now : Phase α × Registry).1 = .finished (.error e) := by
    unfold begin
    rcases hv : p.registry.enter c now with ⟨_ | _, r⟩ <;> rw [hv] at h <;> cases h
    rfl
  refine ⟨(call?_setCall_self ..).trans (by rw [hbegin]), rfl, ?_⟩
  show p.disposed ++ _ = _
  rw [hbegin]
  exact List.append_nil _

/-- **One notification per outage, and an exact window**, for every slot in every run.

Between two notifications there is a crash, and a success, a reset or an admission at or after the
end of the suppression which the first of them started. Once a suppression has started, a call is
turned away as long as its end has not come, without a notification and with the time that is left,
and is let through from then on, whatever crashes are recorded, until a success, a reset or an
admission. A call that is turned away is over at once: it creates no worker, and works on none.

**Proof sketch.** The history of a slot explains its health, so the first two parts are those of
histories of health; the threshold of every policy is at least one. -/
theorem one_notification_per_outage (s : Settings) :
    (∀ (ms : List (Moment α)) (root : Location) (xs ys zs : List Happening)
      (path₀ path₁ about₀ about₁ : Path) (t₀ t₁ : Instant) (w₀ w₁ : Span),
      slotHistory root (start s) [] ms =
        xs ++ (.call path₀ t₀ (.error (.unavailable about₀ w₀ true)) :: ys ++
          .call path₁ t₁ (.error (.unavailable about₁ w₁ true)) :: zs) →
      Happening.crash ∈ ys ∧
        (Happening.success ∈ ys ∨ Happening.reset ∈ ys ∨ ∃ path t,
          Happening.call path t (.ok ()) ∈ ys ∧ (expiryOf t₀ w₀).nanos ≤ t.nanos)) ∧
    (∀ (ms : List (Moment α)) (root : Location) (xs ys zs : List Happening)
      (path₀ path about₀ : Path) (t₀ t : Instant) (w₀ : Span) (verdict : Except WorkerError Unit),
      slotHistory root (start s) [] ms =
        xs ++ (.call path₀ t₀ (.error (.unavailable about₀ w₀ true)) :: ys ++
          .call path t verdict :: zs) →
      Happening.success ∉ ys → Happening.reset ∉ ys →
      (∀ path' t', Happening.call path' t' (.ok ()) ∉ ys) →
      verdict = if t.nanos < (expiryOf t₀ w₀).nanos then
        .error (.unavailable path ((expiryOf t₀ w₀).since t) false) else .ok ()) ∧
    (∀ (ms after : List (Moment α)) (down : WorkerId → Bool) (task : TaskId) (c : WorkerContext)
      (now : Instant) (e : WorkerError),
      (((start s).run ms).registry.enter c now).1 = .error e →
      let rejected := ((start s).run ms).step down (.begin task c now)
      rejected.created = ((start s).run ms).created ∧
        rejected.disposed = ((start s).run ms).disposed ∧
        ((∀ m ∈ after, ∀ c' now', m.event ≠ .begin task c' now') →
          ∀ c' ph, (rejected.run after).call? task = some (c', ph) →
            ph = .finished (.error e))) := by
  have hpos : 0 < (CrashPolicy.ofSettings s).threshold := Nat.le_max_right _ _
  refine ⟨?_, ?_, ?_⟩
  · intro ms root xs ys zs path₀ path₁ about₀ about₁ t₀ t₁ w₀ w₁ hhist
    have hx := explains_slotHistory s root ms
    rw [hhist, Health.explains_append] at hx
    obtain ⟨hcrash, x, hmem, hlift⟩ := Health.notify_again hpos hx.2
    refine ⟨hcrash, ?_⟩
    match x, hmem, hlift with
    | .success, hmem, _ => exact .inl hmem
    | .reset, hmem, _ => exact .inr (.inl hmem)
    | .call path t (.ok ()), hmem, hlift => exact .inr (.inr ⟨path, t, hmem, hlift⟩)
  · intro ms root xs ys zs path₀ path about₀ t₀ t w₀ verdict hhist hsuccess hreset hcall
    have hx := explains_slotHistory s root ms
    rw [hhist, Health.explains_append] at hx
    refine Health.verdict_of_suppressed hx.2 fun x hmem hlift => ?_
    match x, hmem, hlift with
    | .success, hmem, _ => exact hsuccess hmem
    | .reset, hmem, _ => exact hreset hmem
    | .call path' t' (.ok ()), hmem, _ => exact hcall path' t' hmem
  · intro ms after down task c now e he
    obtain ⟨hcall, hcreated, hdisposed⟩ := begin_of_error down task he
    refine ⟨hcreated, hdisposed, fun hno => ?_⟩
    have hended : (((start s).run ms).step down (.begin task c now)).Ended task (.error e) :=
      fun c' ph hcall' => by
        rw [hcall] at hcall'
        cases hcall'
        rfl
    exact hended.run hno

/-- Two crashes, a call that is turned away with a notification and one that is turned away quietly,
a retry that crashes, and another notification. -/
def twoOutages : List (Moment Unit) :=
  [.calm (.begin 0 ownRoot ⟨0⟩), .calm (.created 0),
    .calm (.worked 0 (.error (.crashed ⟨"/w"⟩ ""))),
    .calm (.begin 1 ownRoot ⟨1⟩), .calm (.created 1),
    .calm (.worked 1 (.error (.crashed ⟨"/w"⟩ ""))),
    .calm (.begin 2 ownRoot ⟨2⟩), .calm (.begin 3 ownRoot ⟨3⟩),
    .calm (.begin 4 ownRoot ⟨30000000002⟩), .calm (.created 4),
    .calm (.worked 4 (.error (.crashed ⟨"/w"⟩ ""))),
    .calm (.begin 5 ownRoot ⟨30000000003⟩)]

/-- What lies between the two notifications. -/
def betweenOutages : List Happening :=
  [.call ⟨"/w"⟩ ⟨3⟩ (.error (.unavailable ⟨"/w"⟩ ⟨29999999999⟩ false)),
    .call ⟨"/w"⟩ ⟨30000000002⟩ (.ok ()), .crash]

/-- The run with two notifications: what lies between them, the verdict on the quiet call, and what
becomes of the call that is turned away last. -/
theorem one_notification_per_outage_twice :
    (Happening.crash ∈ betweenOutages ∧
      (Happening.success ∈ betweenOutages ∨ Happening.reset ∈ betweenOutages ∨ ∃ path t,
        Happening.call path t (.ok ()) ∈ betweenOutages ∧
          (expiryOf ⟨2⟩ (.ofSeconds 30)).nanos ≤ t.nanos)) ∧
    (.error (.unavailable ⟨"/w"⟩ ⟨29999999999⟩ false) : Except WorkerError Unit) =
      (if 3 < (expiryOf ⟨2⟩ (.ofSeconds 30)).nanos then
        .error (.unavailable ⟨"/w"⟩ ((expiryOf ⟨2⟩ (.ofSeconds 30)).since ⟨3⟩) false) else .ok ()) ∧
    (((start .standard).run (twoOutages.take 6)).step (fun _ => false)
      (.begin 2 ownRoot ⟨2⟩)).created = ((start .standard).run (twoOutages.take 6)).created := by
  refine ⟨?_, ?_, ?_⟩
  · exact (one_notification_per_outage (α := Unit) .standard).1 twoOutages
      ownRoot.workerRoot.components
      [.call ⟨"/w"⟩ ⟨0⟩ (.ok ()), .crash, .call ⟨"/w"⟩ ⟨1⟩ (.ok ()), .crash] betweenOutages []
      ⟨"/w"⟩ ⟨"/w"⟩ ⟨"/w"⟩ ⟨"/w"⟩ ⟨2⟩ ⟨30000000003⟩ (.ofSeconds 30) (.ofSeconds 30)
      (by decide +kernel)
  · exact (one_notification_per_outage (α := Unit) .standard).2.1 twoOutages
      ownRoot.workerRoot.components
      [.call ⟨"/w"⟩ ⟨0⟩ (.ok ()), .crash, .call ⟨"/w"⟩ ⟨1⟩ (.ok ()), .crash] []
      (betweenOutages.tail ++
        [.call ⟨"/w"⟩ ⟨30000000003⟩ (.error (.unavailable ⟨"/w"⟩ (.ofSeconds 30) true))])
      ⟨"/w"⟩ ⟨"/w"⟩ ⟨"/w"⟩ ⟨2⟩ ⟨3⟩ (.ofSeconds 30) _ (by decide +kernel)
      List.not_mem_nil List.not_mem_nil fun _ _ => List.not_mem_nil
  · exact ((one_notification_per_outage (α := Unit) .standard).2.2 (twoOutages.take 6) []
      (fun _ => false) 2 ownRoot ⟨2⟩ (.unavailable ⟨"/w"⟩ (.ofSeconds 30) true)
      (by decide +kernel)).1

end Pool

end LintPool
