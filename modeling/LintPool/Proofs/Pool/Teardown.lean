import LintPool.Proofs.Pool.Ownership
import LintPool.Proofs.Registry.Claims

set_option autoImplicit false

/-!
# Teardown of folders

Whatever calls and teardowns make of a pool, each slot is claimed by a folder that a call came
through. A teardown takes out the slots that its folder alone claims, and disposes of their workers
one after the other; the other slots lose the claim and nothing else. So when no call is under way,
tearing down all folders that calls came through, in whatever order, leaves no slot, and no worker
that is not disposed of.

## Main definitions

* `LintPool.Pool.foldersIn`, `LintPool.Pool.releasedIn` — the folders that the calls of a run came
  through, and those that it tears down.
* `LintPool.Pool.Claimed` — slots are claimed, and only by folders of a kind that the calls under
  way came through.
* `LintPool.Pool.Quiet` — no call is under way.
* `LintPool.Pool.passedOn` — the workers that a task passes on for disposal in a run.

## Main results

* `LintPool.Pool.Claimed.run` — slots are claimed after every run.
* `LintPool.Pool.claimed_of_quiet` — in a run without calls, folders that are torn down claim
  nothing any more.
* `LintPool.Pool.passedOn_of_teardown?` — a teardown comes to its workers one after the other.
* `LintPool.Pool.teardown_complete_and_scoped` — what teardowns take out and what they leave.
-/

namespace LintPool

namespace Pool

open Registry

variable {α : Type}

/-! ## Folders that calls came through -/

/-- The folder through which an event brings a call. -/
def Event.folder? : Event α → Option Location
  | .begin _ c _ => some c.workspaceFolder.components
  | _ => none

/-- The folder whose teardown an event begins. -/
def Event.released? : Event α → Option Location
  | .release _ folder => some folder
  | _ => none

/-- The folders that the calls of a run came through. -/
def foldersIn (ms : List (Moment α)) : List Location :=
  ms.filterMap (·.event.folder?)

/-- The folders that a run tears down. -/
def releasedIn (ms : List (Moment α)) : List Location :=
  ms.filterMap (·.event.released?)

/-- Slots are claimed, and only by folders of a kind; the calls under way came through such folders
too. -/
structure Claimed (kind : Location → Prop) (p : Pool α) : Prop where
  /-- Each slot is claimed, and only by folders of the kind. -/
  slots : p.registry.Claimed kind
  /-- The calls under way came through folders of the kind. -/
  calls : ∀ x ∈ p.calls, kind x.2.1.workspaceFolder.components

namespace Claimed

variable {kind : Location → Prop} {p : Pool α}

/-- A call comes to a phase. -/
lemma setCall (h : p.Claimed kind) (task : TaskId) {c : WorkerContext}
    {next : Phase α × Registry} (hnext : next.2.Claimed kind)
    (hc : kind c.workspaceFolder.components) : (p.setCall task c next).Claimed kind := by
  refine ⟨hnext, fun x hx => ?_⟩
  simp only [Pool.setCall, List.mem_append, List.mem_singleton] at hx
  rcases hx with hx | rfl
  · exact h.calls x (List.mem_of_mem_filter hx)
  · exact hc

/-- A task is dropped, and the registry changes. -/
lemma drop (h : p.Claimed kind) (task : TaskId) {r : Registry} (hr : r.Claimed kind) :
    Claimed kind (Pool.drop { p with registry := r } task) :=
  ⟨hr, fun x hx => h.calls x (List.mem_of_mem_filter hx)⟩

/-- A teardown comes to some workers, and the registry changes. -/
lemma setTeardown (h : p.Claimed kind) (task : TaskId) (ws : List WorkerId) {r : Registry}
    (hr : r.Claimed kind) :
    Claimed kind (Pool.setTeardown { p with registry := r } task ws) :=
  ⟨hr, (h.drop task hr).calls⟩

/-- The folder of a call that is found. -/
lemma of_call? (h : p.Claimed kind) {task : TaskId} {c : WorkerContext} {ph : Phase α}
    (hcall : p.call? task = some (c, ph)) : kind c.workspaceFolder.components :=
  h.calls _ (mem_calls_of_call? hcall)

/-- **Slots are claimed** through every move. -/
lemma move (h : p.Claimed kind) {down : WorkerId → Bool} {e : Event α} {p' : Pool α}
    (hm : Move down p e p') (hf : ∀ folder ∈ e.folder?, kind folder) : p'.Claimed kind := by
  cases hm with
  | begin task c now => exact h.setCall task (h.slots.begin (hf _ rfl) down now) (hf _ rfl)
  | created task c hcall =>
    have hc := h.of_call? hcall
    exact setCall (p := { p with created := p.created ++ [c] }) ⟨h.slots, h.calls⟩ task
      (h.slots.afterCreation hc down _) hc
  | notCreated task c e hcall =>
    have hc := h.of_call? hcall
    exact h.setCall task (h.slots.afterCreation hc down _) hc
  | worked task c w outcome hcall =>
    exact h.setCall task (h.slots.afterWork c w outcome) (h.of_call? hcall)
  | settled task c ph hcall => exact h.setCall task h.slots (h.of_call? hcall)
  | cleared task w ws => exact h.setTeardown task ws h.slots
  | abandoned task => exact h.drop task h.slots
  | release task folder =>
    exact h.setTeardown task _ ((h.slots.release folder).mono fun _ hkind => hkind.1)
  | drain task => exact h.setTeardown task _ Registry.Claimed.drain
  | workspaceActivity folder => exact ⟨h.slots.resetWhere (·.belongsTo folder), h.calls⟩
  | fileActivity path => exact ⟨h.slots.resetWhere (·.contains path), h.calls⟩
  | idle => exact h

/-- **Slots are claimed** after every run, and only by folders that calls came through. -/
lemma run (h : p.Claimed kind) {ms : List (Moment α)} (hf : ∀ folder ∈ foldersIn ms, kind folder) :
    (p.run ms).Claimed kind := by
  induction ms generalizing p with
  | nil => exact h
  | cons m ms ih =>
    have hmem : ∀ folder, (folder ∈ m.event.folder? ∨ folder ∈ foldersIn ms) → kind folder :=
      fun folder hor => hf folder (by
        rw [foldersIn, List.filterMap_cons]
        rcases hx : m.event.folder? with _ | f
        · exact hor.resolve_left (by simp [hx])
        · rcases hor with hor | hor
          · rw [hx, Option.mem_some_iff] at hor
            exact hor ▸ List.mem_cons_self
          · exact List.mem_cons_of_mem _ hor)
    exact ih (h.move (move_step m.down p m.event) fun folder hfolder => hmem folder (.inl hfolder))
      fun folder hfolder => hmem folder (.inr hfolder)

/-- At the start there are no slots. -/
lemma start (s : Settings) : (Pool.start s : Pool α).Claimed kind :=
  ⟨fun _ hx => absurd hx List.not_mem_nil, fun _ hx => absurd hx List.not_mem_nil⟩

end Claimed

/-! ## Runs without calls -/

/-- No call is under way. -/
def Quiet (p : Pool α) : Prop :=
  ∀ x ∈ p.calls, x.2.2.isFinished = true

/-- **A move of a pool in which no call is under way**, if it brings none: there is still none, and
a folder whose teardown begins claims nothing any more. -/
lemma Quiet.move {p p' : Pool α} (h : p.Quiet) {down : WorkerId → Bool} {e : Event α}
    (hm : Move down p e p') (he : e.folder? = none) {kind : Location → Prop}
    (hclaimed : p.registry.Claimed kind) :
    p'.Quiet ∧ p'.registry.Claimed fun folder => kind folder ∧ e.released? ≠ some folder := by
  have hdrop : ∀ task, (p.drop task).Quiet := fun task x hx => h x (List.mem_of_mem_filter hx)
  have hover : ∀ {task c ph}, p.call? task = some (c, ph) → ph.isFinished = true :=
    fun hcall => h _ (mem_calls_of_call? hcall)
  have hkeep : ∀ {r : Registry} {e : Event α}, r.Claimed kind → e.released? = none →
      r.Claimed fun folder => kind folder ∧ e.released? ≠ some folder := fun hr hno =>
    hr.mono fun folder hk => ⟨hk, by simp [hno]⟩
  cases hm with
  | begin => cases he
  | created task c hcall => cases hover hcall
  | notCreated task c e hcall => cases hover hcall
  | worked task c w outcome hcall => cases hover hcall
  | settled task c ph hcall hph =>
    have hfinished := hover hcall
    cases ph <;> cases hfinished
    cases hph
  | cleared task | abandoned task => exact ⟨hdrop task, hkeep hclaimed rfl⟩
  | release task folder =>
    refine ⟨hdrop task, (hclaimed.release folder).mono fun other ho => ⟨ho.1, ?_⟩⟩
    exact fun heq => ho.2 (Option.some.inj heq).symm
  | drain task => exact ⟨hdrop task, Registry.Claimed.drain⟩
  | workspaceActivity folder =>
    exact ⟨h, hkeep (hclaimed.resetWhere (·.belongsTo folder)) rfl⟩
  | fileActivity path => exact ⟨h, hkeep (hclaimed.resetWhere (·.contains path)) rfl⟩
  | idle e hno =>
    refine ⟨h, hkeep hclaimed ?_⟩
    cases e with
    | release => exact absurd trivial hno
    | _ => rfl

/-- **Folders that are torn down claim nothing any more**, in a run without calls. -/
lemma claimed_of_quiet {p : Pool α} (h : p.Quiet) {kind : Location → Prop}
    (hclaimed : p.registry.Claimed kind) {ns : List (Moment α)} (hno : foldersIn ns = []) :
    (p.run ns).registry.Claimed fun folder => kind folder ∧ folder ∉ releasedIn ns := by
  induction ns generalizing p kind with
  | nil => exact hclaimed.mono fun folder hk => ⟨hk, List.not_mem_nil⟩
  | cons n ns ih =>
    obtain ⟨hfirst, hrest⟩ := List.filterMap_eq_nil_iff.1 hno |> List.forall_mem_cons.1
    obtain ⟨hquiet, hnext⟩ := h.move (move_step n.down p n.event) hfirst hclaimed
    refine (ih hquiet hnext (List.filterMap_eq_nil_iff.2 hrest)).mono fun folder hk => ?_
    refine ⟨hk.1.1, fun hmem => ?_⟩
    rw [releasedIn, List.filterMap_cons] at hmem
    rcases hx : n.event.released? with _ | f
    · rw [hx] at hmem
      exact hk.2 hmem
    · rw [hx] at hmem
      rcases List.mem_cons.1 hmem with rfl | hmem
      · exact hk.1.2 hx
      · exact hk.2 hmem

/-! ## Teardowns under way -/

/-- Whether an event says that the disposal which a task waits for is done. -/
def Event.isDisposal (task : TaskId) : Event α → Bool
  | .disposed task' => task' = task
  | _ => false

/-- Only the event that a disposal is done says so. -/
lemma Event.isDisposal_iff {task : TaskId} {e : Event α} :
    e.isDisposal task = true ↔ e = .disposed task := by
  cases e <;> simp [isDisposal]

/-- The workers that the steps of a task pass on for disposal in a run. -/
def passedOn (task : TaskId) (p : Pool α) : List (Moment α) → List WorkerId
  | [] => []
  | m :: ms =>
    let p' := p.step m.down m.event
    (if m.event.task? = some task then p'.disposed.drop p.disposed.length else []) ++
      passedOn task p' ms

/-- The workers that a teardown passes on first, and then. -/
lemma head_append_take_tail (ws : List WorkerId) (n : Nat) :
    ws.head?.toList ++ ws.tail.take n = ws.take (n + 1) := by
  cases ws with
  | nil => exact List.take_nil
  | cons w ws => rfl

/-- **A teardown comes to its workers one after the other**: each disposal that is done leads on to
the next worker.

**Proof sketch.** Induction on the run. Moments that are about other tasks change neither the
teardown nor what it has passed on; a disposal takes the first worker off and passes on the second,
if there is one. -/
lemma passedOn_of_teardown? {p : Pool α} {task : TaskId} {ws : List WorkerId}
    (hcall : p.call? task = none) (htear : p.teardown? task = some ws) {ns : List (Moment α)}
    (hns : ∀ n ∈ ns, n.event.task? = some task → n.event.isDisposal task = true) :
    (p.run ns).teardown? task = some (ws.drop (ns.countP (·.event.isDisposal task))) ∧
      passedOn task p ns = ws.tail.take (ns.countP (·.event.isDisposal task)) := by
  induction ns generalizing p ws with
  | nil => exact ⟨htear, List.take_zero.symm⟩
  | cons n ns ih =>
    have hrest := fun n' hn' => hns n' (List.mem_cons_of_mem _ hn')
    have hm := move_step n.down p n.event
    rw [run_cons, passedOn, List.countP_cons]
    by_cases ht : n.event.task? = some task
    · have hdone := hns n List.mem_cons_self ht
      rw [if_pos ht, if_pos hdone]
      have hevent := Event.isDisposal_iff.1 hdone
      cases ws with
      | nil =>
        have hstep : p.step n.down n.event = p := by simp only [hevent, step, hcall, htear]
        rw [hstep, List.drop_length, List.nil_append]
        simpa using ih hcall htear hrest
      | cons w ws =>
        have hstep : p.step n.down n.event = p.setTeardown task ws := by
          simp only [hevent, step, hcall, htear]
        have hcall' : (p.setTeardown task ws).call? task = none :=
          (call?_setTeardown ..).trans (if_pos rfl)
        have htear' : (p.setTeardown task ws).teardown? task = some ws :=
          (teardown?_setTeardown ..).trans (if_pos rfl)
        obtain ⟨hafter, hpassed⟩ := ih hcall' htear' hrest
        rw [hstep, hpassed]
        refine ⟨hafter, ?_⟩
        show (p.disposed ++ ws.head?.toList).drop p.disposed.length ++ _ = _
        rw [List.drop_left, head_append_take_tail]
        rfl
    · have hno : ¬ n.event.isDisposal task = true := fun hdone => ht (by
        rw [Event.isDisposal_iff.1 hdone]
        rfl)
      obtain ⟨hafter, hpassed⟩ := ih ((call?_move hm ht).trans hcall)
        ((teardown?_move hm ht).trans htear) hrest
      rw [if_neg hno, if_neg ht, List.nil_append]
      exact ⟨hafter, hpassed⟩

/-- **What a teardown passes on**: from its beginning on, one worker, and then one more for each
disposal that is done, until all are passed on that it took out. -/
lemma passedOn_of_release (p : Pool α) (down : WorkerId → Bool) (task : TaskId) (folder : Location)
    {ns : List (Moment α)}
    (hns : ∀ n ∈ ns, n.event.task? = some task → n.event.isDisposal task = true) :
    ((p.step down (.release task folder)).run ns).teardown? task =
        some ((p.registry.release folder).1.drop (ns.countP (·.event.isDisposal task))) ∧
      passedOn task p (⟨down, .release task folder⟩ :: ns) =
        (p.registry.release folder).1.take (ns.countP (·.event.isDisposal task) + 1) := by
  have hcall : (p.step down (.release task folder)).call? task = none :=
    (call?_setTeardown ..).trans (if_pos rfl)
  have htear : (p.step down (.release task folder)).teardown? task =
      some (p.registry.release folder).1 := (teardown?_setTeardown ..).trans (if_pos rfl)
  have hdisposed : (p.step down (.release task folder)).disposed =
      p.disposed ++ (p.registry.release folder).1.head?.toList := rfl
  obtain ⟨hafter, hpassed⟩ := passedOn_of_teardown? hcall htear hns
  refine ⟨hafter, ?_⟩
  rw [passedOn, hpassed, hdisposed, List.drop_left, ← head_append_take_tail]
  exact congrArg (· ++ _) (if_pos rfl)

/-! ## Whole teardowns -/

/-- **Teardowns are complete and scoped**, in every run.

Every slot is claimed by a folder. When a folder is torn down, the slots that it alone claims go,
and every other one keeps its worker and its health and loses at most the claim of the folder; and
the teardown passes on for disposal, one after the other, the workers of the slots that went and no
others. So, if no call is under way and none comes any more, and all folders that calls came through
are torn down, in whatever order, no slot is left; and when the teardowns are over, every worker
that was created is disposed of.

**Proof sketch.** A slot is made for the folder of a call, so only folders that calls came through
claim slots; when these are torn down, no folder is left that could claim one. A worker that was
created is in a slot, or pending with a teardown, or passed on. -/
theorem teardown_complete_and_scoped (s : Settings) :
    (∀ (ms : List (Moment α)) (root : Location) (slot : Slot),
      ((start s).run ms).registry.slots.at? root = some slot → slot.folders ≠ []) ∧
    (∀ (ms : List (Moment α)) (down : WorkerId → Bool) (task : TaskId) (folder : Location),
      (∀ root, (((start s).run ms).step down (.release task folder)).registry.slots.at? root =
        (((start s).run ms).registry.slots.at? root).bind (·.leftBy folder)) ∧
      ∃ ws : List WorkerId,
        (∀ w, w ∈ ws ↔ ∃ root slot, ((start s).run ms).registry.slots.at? root = some slot ∧
          slot.leftBy folder = none ∧ slot.workerId? = some w) ∧
        ∀ ns : List (Moment α),
          (∀ n ∈ ns, n.event.task? = some task → n.event.isDisposal task = true) →
            ((((start s).run ms).step down (.release task folder)).run ns).teardown? task =
                some (ws.drop (ns.countP (·.event.isDisposal task))) ∧
              passedOn task ((start s).run ms) (⟨down, .release task folder⟩ :: ns) =
                ws.take (ns.countP (·.event.isDisposal task) + 1)) ∧
    (∀ ms ns : List (Moment α), (start s).Orderly (ms ++ ns) → ((start s).run ms).Quiet →
      foldersIn ns = [] → (∀ folder ∈ foldersIn ms, folder ∈ releasedIn ns) →
        ((start s).run (ms ++ ns)).registry.slots = [] ∧
          ((∀ x ∈ ((start s).run (ms ++ ns)).teardowns, x.2 = []) →
            ∀ w < ((start s).run (ms ++ ns)).created.length,
              w ∈ ((start s).run (ms ++ ns)).disposed)) := by
  have hclaimed : ∀ ms : List (Moment α), ((start s).run ms).Claimed (· ∈ foldersIn ms) :=
    fun ms => (Claimed.start s).run fun _ hf => hf
  refine ⟨fun ms root slot hs => ?_, fun ms down task folder => ?_, fun ms ns ho hq hno hall => ?_⟩
  · exact ((hclaimed ms).slots.of_at? hs).claimed
  · have hn := ((Kept.start s).run ms).filed.roots_nodup
    refine ⟨fun root => at?_release hn (hclaimed ms).slots folder root, _, fun w => ?_,
      fun ns hns => passedOn_of_release _ down task folder hns⟩
    exact mem_release hn (hclaimed ms).slots
  · have hnone := claimed_of_quiet hq (hclaimed ms).slots hno
    rw [← run_append] at hnone
    have hslots : ((start s).run (ms ++ ns)).registry.slots = [] :=
      List.eq_nil_iff_forall_not_mem.2 fun x hx => by
        obtain ⟨folder, hfolder⟩ := List.exists_mem_of_ne_nil _ (hnone x hx).claimed
        obtain ⟨hcame, hkept⟩ := (hnone x hx).all folder hfolder
        exact hkept (hall folder hcame)
    refine ⟨hslots, fun hover w hw => ?_⟩
    have hb := balanced_orderly (Distinct.start s) (balanced_start s) ho
    have hpending : ((start s).run (ms ++ ns)).pending = [] :=
      List.flatMap_eq_nil_iff.2 fun x hx => by rw [hover x hx]; rfl
    have hmem := hb.mem_iff.2 hw
    rw [account, installed, hslots, hpending] at hmem
    exact hmem

/-- Two calls come through nested folders to one root, and are done. -/
def nestedFolders : List (Moment Unit) :=
  [.calm (.begin 0 ⟨⟨"/w"⟩, ⟨"/w/p"⟩, none, none⟩ ⟨0⟩), .calm (.created 0),
    .calm (.worked 0 (.ok ())), .calm (.begin 1 ⟨⟨"/w/p"⟩, ⟨"/w/p"⟩, none, none⟩ ⟨0⟩),
    .calm (.worked 1 (.ok ()))]

/-- Both folders are torn down. -/
def bothReleased : List (Moment Unit) :=
  [.calm (.release 2 (Path.mk "/w/p").components), .calm (.release 3 (Path.mk "/w").components),
    .calm (.disposed 3)]

/-- When both folders are torn down no slot is left, and the worker that they shared is disposed
of. -/
theorem teardown_complete_and_scoped_nested :
    (start .standard).Orderly (nestedFolders ++ bothReleased) ∧
      ((start .standard).run (nestedFolders ++ bothReleased)).registry.slots = [] ∧
        0 ∈ ((start .standard).run (nestedFolders ++ bothReleased)).disposed :=
  have horderly : (start .standard).Orderly (nestedFolders ++ bothReleased) := by decide +kernel
  have hdone := (teardown_complete_and_scoped .standard).2.2 nestedFolders bothReleased horderly
    (by unfold Quiet; decide +kernel) rfl (by decide +kernel)
  ⟨horderly, hdone.1, hdone.2 (by decide +kernel) 0 (by decide +kernel)⟩

end Pool

end LintPool
