import Mathlib.Data.List.Pairwise
import Mathlib.Data.List.Perm.Basic
import LintPool.Proofs.Pool.Handing

set_option autoImplicit false

/-!
# Where every worker is

A worker that was created is in a slot, or was taken out of one by a teardown that has not come to
it yet, or was passed on for disposal. Taken together, the lists of all these hold every worker that
was ever created exactly once: none is lost, and none is passed on twice.

## Main definitions

* `LintPool.Pool.pending` — the workers that teardowns have taken out and not come to yet.
* `LintPool.Pool.account` — the workers in slots, those pending and those passed on.
* `LintPool.Pool.Balanced` — the account, with what was lost, holds every worker once.
* `LintPool.Pool.Place`, `LintPool.Pool.Holds` — the places where a worker may be.
* `LintPool.Pool.AtRest` — no call and no teardown is under way.

## Main results

* `LintPool.Pool.Balanced.move` — a move loses at most what a task that it gives up still held.
* `LintPool.Pool.balanced_run`, `LintPool.Pool.balanced_orderly` — what runs lose.
* `LintPool.Pool.every_worker_in_one_place` — in a run that gives up no task, each worker is in
  exactly one place.
-/

namespace LintPool

namespace Pool

open Registry

variable {α : Type}

/-! ## The account -/

/-- The workers that teardowns have taken out and not come to yet. -/
def pending (p : Pool α) : List WorkerId :=
  p.teardowns.flatMap (·.2.tail)

/-- The workers that the teardowns of one number have taken out and not come to yet. -/
def pendingOf (p : Pool α) (task : TaskId) : List WorkerId :=
  (p.teardowns.filter (·.1 = task)).flatMap (·.2.tail)

/-- The workers in slots, those pending and those passed on. -/
def account (p : Pool α) : List WorkerId :=
  p.registry.installed ++ p.pending ++ p.disposed

/-- The account, with what was lost, holds every worker that was created once. -/
def Balanced (p : Pool α) (lost : List WorkerId) : Prop :=
  (p.account ++ lost).Perm (List.range p.created.length)

/-- What is pending is pending with the tasks of a number or with the others. -/
lemma pending_drop (p : Pool α) (task : TaskId) :
    ((p.drop task).pending ++ p.pendingOf task).Perm p.pending := by
  unfold pending pendingOf drop
  rw [← List.flatMap_append]
  refine List.Perm.flatMap_right _ ?_
  have hp := List.filter_append_perm (fun x : TaskId × List WorkerId => decide (x.1 ≠ task))
    p.teardowns
  simpa using hp

/-- Dropping a task loses what was pending with it. -/
lemma account_drop (p : Pool α) (task : TaskId) :
    ((p.drop task).account ++ p.pendingOf task).Perm p.account := by
  refine List.perm_iff_count.2 fun w => ?_
  have hp := List.perm_iff_count.1 (pending_drop p task) w
  simp only [account, List.count_append] at hp ⊢
  simp only [drop] at hp ⊢
  omega

/-- A call comes to a phase: the account follows what the step took out of the slots, put into them
and passed on. -/
lemma account_setCall (p : Pool α) (task : TaskId) (c : WorkerContext) (next : Phase α × Registry)
    (arrived : List WorkerId)
    (hnext : (next.2.installed ++ next.1.disposing?.toList).Perm
      (p.registry.installed ++ arrived)) :
    ((p.setCall task c next).account ++ p.pendingOf task).Perm (p.account ++ arrived) := by
  refine List.perm_iff_count.2 fun w => ?_
  have hp := List.perm_iff_count.1 (pending_drop p task) w
  have hn := List.perm_iff_count.1 hnext w
  have hpend : (p.setCall task c next).pending = (p.drop task).pending := rfl
  simp only [account, List.count_append, hpend] at hp hn ⊢
  simp only [setCall, drop, List.count_append] at hp ⊢
  omega

/-- A teardown comes to some workers that were with nobody: the first is passed on, and the others
are pending. -/
lemma account_setTeardown (p : Pool α) (task : TaskId) (ws : List WorkerId) :
    ((p.setTeardown task ws).account ++ p.pendingOf task).Perm (p.account ++ ws) := by
  refine List.perm_iff_count.2 fun w => ?_
  have hp := List.perm_iff_count.1 (pending_drop p task) w
  have hpend : (p.setTeardown task ws).pending = (p.drop task).pending ++ ws.tail := by
    simp [pending, setTeardown]
  have hws : ws.count w = ws.head?.toList.count w + ws.tail.count w := by
    cases ws with
    | nil => rfl
    | cons a ws => simp [List.count_cons, Nat.add_comm]
  simp only [account, List.count_append, hpend] at hp ⊢
  simp only [setTeardown, drop, List.count_append] at hp ⊢
  omega

/-! ## What is pending with a number -/

/-- Nothing is pending with what is over. -/
lemma pendingOf_of_over {p : Pool α} {task : TaskId} (h : p.Over task) : p.pendingOf task = [] := by
  unfold pendingOf
  refine List.flatMap_eq_nil_iff.2 fun x hx => ?_
  rw [List.mem_filter] at hx
  rw [h.2 x hx.1 (by simpa using hx.2)]
  rfl

/-- Nothing is pending with a call. -/
lemma pendingOf_of_call? {p : Pool α} (hd : p.Distinct) {task : TaskId}
    {x : WorkerContext × Phase α} (h : p.call? task = some x) : p.pendingOf task = [] := by
  have hcall : task ∈ p.calls.map (·.1) := List.mem_map.2 ⟨_, mem_calls_of_call? h, rfl⟩
  unfold pendingOf
  refine List.flatMap_eq_nil_iff.2 fun y hy => ?_
  rw [List.mem_filter] at hy
  have htear : task ∈ p.teardowns.map (·.1) := List.mem_map.2 ⟨y, hy.1, by simpa using hy.2⟩
  exact absurd htear ((List.nodup_append.1 hd).2.2 task hcall task · rfl)

/-- With a teardown all but the first of its workers are pending. -/
lemma pendingOf_of_teardown? {p : Pool α} (hd : p.Distinct) {task : TaskId} {ws : List WorkerId}
    (h : p.teardown? task = some ws) : p.pendingOf task = ws.tail := by
  have hmem := mem_teardowns_of_teardown? h
  have hnodup : (p.teardowns.map (·.1)).Nodup := (List.nodup_append.1 hd).2.1
  obtain ⟨before, after, hsplit⟩ := List.append_of_mem hmem
  have hothers : ∀ x ∈ before ++ after, ¬ x.1 = task := by
    rw [hsplit, List.map_append, List.map_cons] at hnodup
    have hno := (List.nodup_cons.1 (List.perm_middle.nodup_iff.1 hnodup)).1
    rw [← List.map_append] at hno
    exact fun x hx he => hno (List.mem_map.2 ⟨x, hx, he⟩)
  have hfilter : p.teardowns.filter (·.1 = task) = [(task, ws)] := by
    have hb : before.filter (·.1 = task) = [] :=
      List.filter_eq_nil_iff.2 fun x hx => by simpa using hothers x (List.mem_append_left _ hx)
    have ha : after.filter (·.1 = task) = [] :=
      List.filter_eq_nil_iff.2 fun x hx => by simpa using hothers x (List.mem_append_right _ hx)
    simp [hsplit, hb, ha]
  simp [pendingOf, hfilter]

/-! ## What moves and runs lose -/

namespace Balanced

variable {p p' : Pool α} {lost : List WorkerId}

/-- A step whose account is known, in which no worker is created. -/
lemma of_account (h : p.Balanced lost) (leak : List WorkerId)
    (hcreated : p'.created = p.created) (ha : (p'.account ++ leak).Perm p.account) :
    p'.Balanced (lost ++ leak) := by
  unfold Balanced at h ⊢
  rw [hcreated]
  refine List.perm_iff_count.2 fun w => ?_
  have hc := List.perm_iff_count.1 h w
  have hb := List.perm_iff_count.1 ha w
  simp only [List.count_append] at hc hb ⊢
  omega

/-- A step of a call under way, in which no worker is created, loses nothing. -/
lemma advance (h : p.Balanced lost) (hd : p.Distinct) {task : TaskId} {c : WorkerContext}
    {x : WorkerContext × Phase α} (hcall : p.call? task = some x) (next : Phase α × Registry)
    (hnext : (next.2.installed ++ next.1.disposing?.toList).Perm p.registry.installed) :
    (p.setCall task c next).Balanced lost := by
  have ha := account_setCall p task c next [] (by rwa [List.append_nil])
  rw [pendingOf_of_call? hd hcall] at ha
  have hb : (p.setCall task c next).Balanced (lost ++ []) :=
    h.of_account [] rfl (by simpa using ha)
  rwa [List.append_nil] at hb

/-- A creation yields a worker: it is in the account from then on. -/
lemma create (h : p.Balanced lost) (hd : p.Distinct) (down : WorkerId → Bool) {task : TaskId}
    {c : WorkerContext} (hcall : p.call? task = some (c, .creating)) :
    ({ p with created := p.created ++ [c] }.setCall task c
      (p.registry.afterCreation down c (.ok p.created.length))).Balanced lost := by
  have ha := account_setCall { p with created := p.created ++ [c] } task c
    (p.registry.afterCreation down c (.ok p.created.length)) [p.created.length]
    (installed_afterCreation ..)
  have hno : pendingOf { p with created := p.created ++ [c] } task = [] :=
    pendingOf_of_call? (p := p) hd hcall
  rw [hno, List.append_nil] at ha
  have haccount : account { p with created := p.created ++ [c] } = p.account := rfl
  rw [haccount] at ha
  have hlen : ({ p with created := p.created ++ [c] }.setCall task c
      (p.registry.afterCreation down c (.ok p.created.length))).created.length =
      p.created.length + 1 := by simp [setCall, drop]
  unfold Balanced at h ⊢
  rw [hlen, List.range_succ]
  refine List.perm_iff_count.2 fun w => ?_
  have hc := List.perm_iff_count.1 h w
  have hb := List.perm_iff_count.1 ha w
  simp only [List.count_append] at hc hb ⊢
  omega

/-- A teardown takes workers out of the slots: it loses at most what was pending with its
number. -/
lemma tearDown (h : p.Balanced lost) (task : TaskId) (ws : List WorkerId) (r : Registry)
    (hr : (r.installed ++ ws).Perm p.registry.installed) :
    ({ p with registry := r }.setTeardown task ws).Balanced (lost ++ p.pendingOf task) := by
  refine h.of_account _ rfl ((account_setTeardown { p with registry := r } task ws).trans ?_)
  refine List.perm_iff_count.2 fun w => ?_
  have hw := List.perm_iff_count.1 hr w
  have hpend : pending { p with registry := r } = p.pending := rfl
  simp only [account, hpend, List.count_append] at hw ⊢
  omega

/-- A reset takes no worker anywhere. -/
lemma reset (h : p.Balanced lost) (applies : Slot → Bool) :
    Balanced { p with registry := p.registry.resetWhere applies } lost := by
  unfold Balanced account at h ⊢
  rw [← installed_resetWhere p.registry applies] at h
  exact h

/-- **A move loses** at most what was pending with the task that it gives up, and nothing if that
task is over. -/
lemma move (h : p.Balanced lost) (hd : p.Distinct) {down : WorkerId → Bool} {e : Event α}
    (hm : Move down p e p') :
    ∃ lost', p'.Balanced lost' ∧ (e.Orderly p → lost' = lost) := by
  have hover : ∀ task, p.Over task → lost ++ p.pendingOf task = lost := fun task ho => by
    rw [pendingOf_of_over ho, List.append_nil]
  cases hm with
  | begin task c now =>
    have ha := account_setCall p task c (p.registry.begin down c now) []
      (by simpa using installed_begin p.registry down c now)
    exact ⟨_, h.of_account _ rfl (by simpa using ha), hover task⟩
  | created task c hcall => exact ⟨lost, h.create hd down hcall, fun _ => rfl⟩
  | notCreated task c e hcall =>
    exact ⟨lost, h.advance hd hcall _ (installed_afterCreation_error p.registry down c e),
      fun _ => rfl⟩
  | worked task c w outcome hcall =>
    exact ⟨lost, h.advance hd hcall _ (installed_afterWork p.registry c w outcome), fun _ => rfl⟩
  | settled task c ph hcall =>
    exact ⟨lost, h.advance hd hcall _ (by simp [Phase.disposing_afterDisposal]), fun _ => rfl⟩
  | cleared task w ws hcall htear =>
    have ha := account_setTeardown p task ws
    rw [pendingOf_of_teardown? hd htear] at ha
    have hb : (p.setTeardown task ws).Balanced (lost ++ []) :=
      h.of_account [] rfl (by simpa using (List.perm_append_right_iff _).1 ha)
    exact ⟨lost, by rwa [List.append_nil] at hb, fun _ => rfl⟩
  | abandoned task => exact ⟨_, h.of_account _ rfl (account_drop p task), hover task⟩
  | release task folder =>
    exact ⟨_, h.tearDown task _ _ (installed_release p.registry folder), hover task⟩
  | drain task =>
    refine ⟨_, h.tearDown task _ _ ?_, hover task⟩
    obtain ⟨hnone, hall⟩ := installed_drain p.registry
    rw [hnone, hall, List.nil_append]
  | workspaceActivity folder => exact ⟨lost, h.reset _, fun _ => rfl⟩
  | fileActivity path => exact ⟨lost, h.reset _, fun _ => rfl⟩
  | idle => exact ⟨lost, h, fun _ => rfl⟩

end Balanced

/-- At the start there are no workers. -/
lemma balanced_start (s : Settings) : (start s : Pool α).Balanced [] :=
  List.Perm.refl _

/-- Runs lose only what tasks held that were given up. -/
lemma balanced_run (s : Settings) (ms : List (Moment α)) :
    ∃ lost, ((start s).run ms).Balanced lost := by
  refine (run_invariant (P := fun p => p.Distinct ∧ ∃ lost, p.Balanced lost) ?_
    ⟨Distinct.start s, [], balanced_start s⟩ ms).2
  rintro p p' down e ⟨hd, lost, h⟩ hm
  obtain ⟨lost', h', -⟩ := h.move hd hm
  exact ⟨hd.move hm, lost', h'⟩

/-- Runs that give up no task lose nothing. -/
lemma balanced_orderly {p : Pool α} (hd : p.Distinct) (h : p.Balanced []) {ms : List (Moment α)}
    (ho : p.Orderly ms) : (p.run ms).Balanced [] := by
  induction ms generalizing p with
  | nil => exact h
  | cons m ms ih =>
    have hm := move_step m.down p m.event
    obtain ⟨lost, h', hlost⟩ := h.move hd hm
    rw [hlost ho.1] at h'
    exact ih (hd.move hm) h' ho.2

/-! ## Places -/

/-- A place where a worker may be. -/
inductive Place where
  /-- In the slot of a root. -/
  | slot (root : Location)
  /-- With a teardown that has taken it out and is still to come to it. -/
  | teardown (task : TaskId)
  /-- Passed on for disposal. -/
  | disposal
  deriving Repr, DecidableEq

/-- Whether a worker is in a place. -/
def Holds (p : Pool α) (w : WorkerId) : Place → Prop
  | .slot root => ∃ s, p.registry.slots.at? root = some s ∧ s.workerId? = some w
  | .teardown task => ∃ ws, p.teardown? task = some ws ∧ w ∈ ws.tail
  | .disposal => w ∈ p.disposed

/-- No call and no teardown is under way. -/
def AtRest (p : Pool α) : Prop :=
  (∀ x ∈ p.calls, x.2.2.isFinished = true) ∧ ∀ x ∈ p.teardowns, x.2 = []

variable {p : Pool α}

/-- The workers in slots are those that some slot holds. -/
lemma mem_installed_iff (hk : p.Kept) {w : WorkerId} :
    w ∈ p.registry.installed ↔ ∃ root, p.Holds w (.slot root) := by
  rw [Registry.installed, Slots.mem_workersOf]
  constructor
  · rintro ⟨⟨root, s⟩, hs, hw⟩
    exact ⟨root, s, (Slots.mem_iff_at? hk.filed.roots_nodup).1 hs, hw⟩
  · rintro ⟨root, s, hs, hw⟩
    exact ⟨(root, s), Slots.mem_of_at? hs, hw⟩

/-- The pending workers are those that some teardown is still to come to. -/
lemma mem_pending_iff (hd : p.Distinct) {w : WorkerId} :
    w ∈ p.pending ↔ ∃ task, p.Holds w (.teardown task) := by
  rw [pending, List.mem_flatMap]
  constructor
  · rintro ⟨⟨task, ws⟩, hx, hw⟩
    exact ⟨task, ws, teardown?_of_mem hd hx, hw⟩
  · rintro ⟨task, ws, hx, hw⟩
    exact ⟨(task, ws), mem_teardowns_of_teardown? hx, hw⟩

/-- The slot that holds a worker is that of the root which the worker was created for. -/
lemma root_of_holds (hk : p.Kept) {w : WorkerId} {c : WorkerContext} {root : Location}
    (hc : p.created[w]? = some c) (h : p.Holds w (.slot root)) :
    root = c.workerRoot.components := by
  obtain ⟨s, hs, hw⟩ := h
  obtain ⟨live, hlive, rfl⟩ := Option.map_eq_some_iff.1 hw
  obtain ⟨c', hc', hroot, -⟩ := hk.filed.belongs root s (Slots.mem_of_at? hs) live hlive
  obtain rfl : c' = c := Option.some.inj (hc'.symm.trans hc)
  exact hroot.symm

/-- No two teardowns are still to come to the same worker. -/
lemma task_of_holds (hn : p.pending.Nodup) {w : WorkerId} {task task' : TaskId}
    (h : p.Holds w (.teardown task)) (h' : p.Holds w (.teardown task')) : task = task' := by
  obtain ⟨ws, hws, hw⟩ := h
  obtain ⟨ws', hws', hw'⟩ := h'
  by_contra hne
  have hsymm : Std.Symm (Function.onFun List.Disjoint fun x : TaskId × List WorkerId => x.2.tail) :=
    ⟨fun _ _ hxy => List.disjoint_symm hxy⟩
  have hdisjoint : List.Disjoint ws.tail ws'.tail := (List.nodup_flatMap.1 hn).2.forall
    (mem_teardowns_of_teardown? hws) (mem_teardowns_of_teardown? hws')
    fun e => hne (congrArg Prod.fst e)
  exact hdisjoint hw hw'

/-- No worker is in the account twice. -/
lemma Balanced.nodup {lost : List WorkerId} (hb : p.Balanced lost) : p.account.Nodup :=
  (List.nodup_append.1 (hb.nodup_iff.2 List.nodup_range)).1

/-- A worker in a slot was not passed on. -/
lemma Balanced.not_disposed {lost : List WorkerId} (hb : p.Balanced lost) {w : WorkerId}
    (hw : w ∈ p.registry.installed) : w ∉ p.disposed := fun hdis =>
  (List.nodup_append.1 hb.nodup).2.2 w (List.mem_append_left _ hw) w hdis rfl

/-- When nothing is lost, every worker that was created is in the account. -/
lemma Balanced.mem_iff (hb : p.Balanced []) {w : WorkerId} :
    w ∈ p.account ↔ w < p.created.length := by
  rw [Balanced, List.append_nil] at hb
  rw [List.Perm.mem_iff hb, List.mem_range]

/-- When nothing is lost, every worker is in exactly one place. -/
lemma Balanced.existsUnique_place (hb : p.Balanced []) (hk : p.Kept) (hd : p.Distinct)
    {w : WorkerId} {c : WorkerContext} (hc : p.created[w]? = some c) :
    ∃! place, p.Holds w place := by
  obtain ⟨hslots, -, hout⟩ := List.nodup_append.1 hb.nodup
  obtain ⟨-, hpending, hin⟩ := List.nodup_append.1 hslots
  -- The three parts of the account have no worker in common.
  have hslot : ∀ {root}, p.Holds w (.slot root) → w ∈ p.registry.installed :=
    fun h => (mem_installed_iff hk).2 ⟨_, h⟩
  have htear : ∀ {task}, p.Holds w (.teardown task) → w ∈ p.pending :=
    fun h => (mem_pending_iff hd).2 ⟨_, h⟩
  have hst : w ∈ p.registry.installed → w ∉ p.pending := fun h h' => hin w h w h' rfl
  have hsd : w ∈ p.registry.installed → w ∉ p.disposed := hb.not_disposed
  have htd : w ∈ p.pending → w ∉ p.disposed :=
    fun h h' => hout w (List.mem_append_right _ h) w h' rfl
  have hw : w ∈ p.account := hb.mem_iff.2 (List.getElem?_eq_some_iff.1 hc).1
  simp only [account, List.mem_append] at hw
  rcases hw with (hw | hw) | hw
  · obtain ⟨root, hroot⟩ := (mem_installed_iff hk).1 hw
    refine ⟨.slot root, hroot, ?_⟩
    rintro (root' | task | _) h'
    · rw [root_of_holds hk hc h', root_of_holds hk hc hroot]
    · exact absurd (htear h') (hst hw)
    · exact absurd h' (hsd hw)
  · obtain ⟨task, htask⟩ := (mem_pending_iff hd).1 hw
    refine ⟨.teardown task, htask, ?_⟩
    rintro (root | task' | _) h'
    · exact absurd hw (hst (hslot h'))
    · rw [task_of_holds hpending h' htask]
    · exact absurd h' (htd hw)
  · refine ⟨.disposal, hw, ?_⟩
    rintro (root | task | _) h'
    · exact absurd hw (hsd (hslot h'))
    · exact absurd hw (htd (htear h'))
    · rfl

/-- When nothing is lost and nothing is under way, the workers in slots are those that were not
disposed of. -/
lemma Balanced.mem_installed_iff_of_atRest (hb : p.Balanced []) (hrest : p.AtRest) {w : WorkerId} :
    w ∈ p.registry.installed ↔ w < p.created.length ∧ w ∉ p.disposed := by
  have hnone : p.pending = [] := List.flatMap_eq_nil_iff.2 fun x hx => by rw [hrest.2 x hx]; rfl
  have hout := (List.nodup_append.1 hb.nodup).2.2
  rw [← hb.mem_iff]
  simp only [account, hnone, List.append_nil, List.mem_append] at hout ⊢
  constructor
  · exact fun hw => ⟨.inl hw, fun hdis => hout w hw w hdis rfl⟩
  · exact fun ⟨hw, hno⟩ => hw.resolve_right hno

/-- **Every worker is in exactly one place**, in every run that gives up no task before it is over:
in one slot, that of the root which it was created for; with one teardown that has taken it out and
is still to come to it; or passed on for disposal, which happens at most once. Hence when nothing is
under way, the workers that were not disposed of are those in slots, at most one to a root.

A worker is in the hands of the call it was created for only within the step that brings it: that
step puts it in, or passes it on because another call was faster. -/
theorem every_worker_in_one_place (s : Settings) (ms : List (Moment α))
    (h : (start s).Orderly ms) :
    (∀ w c, ((start s).run ms).created[w]? = some c →
      (∃! place, ((start s).run ms).Holds w place) ∧
        ∀ root, ((start s).run ms).Holds w (.slot root) → root = c.workerRoot.components) ∧
    ((start s).run ms).disposed.Nodup ∧
    (((start s).run ms).AtRest →
      (∀ w, (∃ root, ((start s).run ms).Holds w (.slot root)) ↔
        w < ((start s).run ms).created.length ∧ w ∉ ((start s).run ms).disposed) ∧
      ∀ root w w', ((start s).run ms).Holds w (.slot root) →
        ((start s).run ms).Holds w' (.slot root) → w = w') := by
  have hd : ((start s).run ms).Distinct := (Distinct.start s).run ms
  have hk : ((start s).run ms).Kept := (Kept.start s).run ms
  have hb := balanced_orderly (Distinct.start s) (balanced_start s) h
  refine ⟨fun w c hc => ⟨hb.existsUnique_place hk hd hc, fun root => root_of_holds hk hc⟩,
    (List.nodup_append.1 hb.nodup).2.1, fun hrest => ⟨fun w => ?_, ?_⟩⟩
  · rw [← mem_installed_iff hk]
    exact hb.mem_installed_iff_of_atRest hrest
  · rintro root w w' ⟨s, hs, hw⟩ ⟨s', hs', hw'⟩
    obtain rfl : s = s' := Option.some.inj (hs.symm.trans hs')
    exact Option.some.inj (hw.symm.trans hw')

/-- Two calls race for a root and everything is torn down: the worker that lost is in exactly one
place. -/
theorem every_worker_in_one_place_race :
    (start .standard).Orderly raceAndDrain ∧
      ∃! place, ((start .standard).run raceAndDrain).Holds 1 place :=
  ⟨by decide, ((every_worker_in_one_place .standard raceAndDrain (by decide)).1 1 ownRoot rfl).1⟩

end Pool

end LintPool
