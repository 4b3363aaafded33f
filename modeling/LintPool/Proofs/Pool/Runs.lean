import Mathlib.Data.List.Nodup
import Mathlib.Tactic.Common
import LintPool.Registry.Pool

set_option autoImplicit false

/-!
# Runs of the pool

A run is a list of moments: what the world says of its workers, and what comes about. Everything
about runs rests on what one moment can do, which is said once, as a relation with a case for each
way in which a pool moves on.

## Main definitions

* `LintPool.Pool.Moment`, `LintPool.Pool.run` — moments and runs.
* `LintPool.Pool.Move` — the ways in which a pool moves on.
* `LintPool.Pool.Distinct` — no two tasks under way share a number.
* `LintPool.Pool.Over`, `LintPool.Pool.Orderly` — no task is given up before it is over.
* `LintPool.Pool.raceAndDrain` — a small run in which two calls and a teardown meet.

## Main results

* `LintPool.Pool.move_step` — every step is one of the moves.
* `LintPool.Pool.run_invariant` — what every move keeps, every run keeps.
* `LintPool.Pool.call?_move`, `LintPool.Pool.teardown?_move` — a move changes no call and no
  teardown but the one that it is about.
* `LintPool.Pool.Distinct.run` — tasks keep their numbers to themselves.
-/

namespace LintPool

/-- Whether a call is over. -/
def Phase.isFinished {α : Type} : Phase α → Bool
  | .finished _ => true
  | _ => false

namespace Pool

variable {α : Type}

/-! ## Moments and runs -/

/-- What the world says of its workers, and what comes about. -/
structure Moment (α : Type) where
  /-- Whether a worker has gone down. -/
  down : WorkerId → Bool
  /-- What comes about. -/
  event : Event α

/-- The pool of some settings before anything has happened. -/
def start (s : Settings) : Pool α :=
  ofRegistry (.ofSettings s)

/-- The pool after some moments. -/
def run (p : Pool α) (ms : List (Moment α)) : Pool α :=
  ms.foldl (fun p m => p.step m.down m.event) p

/-- A run takes its first step, then the others. -/
@[simp] lemma run_cons (p : Pool α) (m : Moment α) (ms : List (Moment α)) :
    p.run (m :: ms) = (p.step m.down m.event).run ms := rfl

/-- A run in two parts. -/
lemma run_append (p : Pool α) (ms ns : List (Moment α)) :
    p.run (ms ++ ns) = (p.run ms).run ns :=
  List.foldl_append

/-! ## Moves -/

/-- Whether an event can come about: what it says has happened is what a task waits for. -/
def Expects (p : Pool α) : Event α → Prop
  | .created task | .notCreated task _ => ∃ c, p.call? task = some (c, .creating)
  | .worked task _ => ∃ c w, p.call? task = some (c, .working w)
  | .disposed task =>
    (∃ c ph, p.call? task = some (c, ph) ∧ ph.disposing?.isSome = true) ∨
      p.call? task = none ∧ ∃ w ws, p.teardown? task = some (w :: ws)
  | _ => True

/-- The ways in which a pool moves on. -/
inductive Move (down : WorkerId → Bool) (p : Pool α) : Event α → Pool α → Prop where
  | begin (task : TaskId) (c : WorkerContext) (now : Instant) :
    Move down p (.begin task c now) (p.setCall task c (p.registry.begin down c now))
  | created (task : TaskId) (c : WorkerContext) (hcall : p.call? task = some (c, .creating)) :
    Move down p (.created task)
      ({ p with created := p.created ++ [c] }.setCall task c
        (p.registry.afterCreation down c (.ok p.created.length)))
  | notCreated (task : TaskId) (c : WorkerContext) (e : WorkerError)
    (hcall : p.call? task = some (c, .creating)) :
    Move down p (.notCreated task e)
      (p.setCall task c (p.registry.afterCreation down c (.error e)))
  | worked (task : TaskId) (c : WorkerContext) (w : WorkerId) (outcome : Except WorkerError α)
    (hcall : p.call? task = some (c, .working w)) :
    Move down p (.worked task outcome) (p.setCall task c (p.registry.afterWork c w outcome))
  | settled (task : TaskId) (c : WorkerContext) (ph : Phase α)
    (hcall : p.call? task = some (c, ph)) (hph : ph.disposing?.isSome = true) :
    Move down p (.disposed task) (p.setCall task c (ph.afterDisposal, p.registry))
  | cleared (task : TaskId) (w : WorkerId) (ws : List WorkerId) (hcall : p.call? task = none)
    (htear : p.teardown? task = some (w :: ws)) :
    Move down p (.disposed task) (p.setTeardown task ws)
  | abandoned (task : TaskId) : Move down p (.abandoned task) (p.drop task)
  | release (task : TaskId) (folder : Location) :
    Move down p (.release task folder)
      ({ p with registry := (p.registry.release folder).2 }.setTeardown task
        (p.registry.release folder).1)
  | drain (task : TaskId) :
    Move down p (.drain task)
      ({ p with registry := p.registry.drain.2 }.setTeardown task p.registry.drain.1)
  | workspaceActivity (folder : Location) :
    Move down p (.workspaceActivity folder)
      { p with registry := (p.registry.workspaceActivity folder).2 }
  | fileActivity (path : Location) :
    Move down p (.fileActivity path) { p with registry := (p.registry.fileActivity path).2 }
  | idle (e : Event α) (h : ¬ p.Expects e) : Move down p e p

/-- Every step is one of the moves. -/
lemma move_step (down : WorkerId → Bool) (p : Pool α) (e : Event α) :
    Move down p e (p.step down e) := by
  cases e with
  | begin task c now => exact .begin task c now
  | created task =>
    simp only [step]
    split
    · rename_i c hcall
      exact .created task c hcall
    · rename_i hno
      exact .idle _ fun ⟨c, hcall⟩ => hno c hcall
  | notCreated task e =>
    simp only [step]
    split
    · rename_i c hcall
      exact .notCreated task c e hcall
    · rename_i hno
      exact .idle _ fun ⟨c, hcall⟩ => hno c hcall
  | worked task outcome =>
    simp only [step]
    split
    · rename_i c w hcall
      exact .worked task c w outcome hcall
    · rename_i hno
      exact .idle _ fun ⟨c, w, hcall⟩ => hno c w hcall
  | disposed task =>
    simp only [step]
    rcases hcall : p.call? task with _ | ⟨c, ph⟩
    · dsimp only
      split
      · rename_i w ws htear
        exact .cleared task w ws hcall htear
      · rename_i hno
        refine .idle _ fun h => ?_
        rcases h with ⟨c, ph, h, -⟩ | ⟨-, w, ws, h⟩
        · exact absurd (hcall.symm.trans h) (by simp)
        · exact hno w ws h
    · dsimp only
      split
      · rename_i hph
        exact .settled task c ph hcall hph
      · rename_i hph
        refine .idle _ fun h => ?_
        rcases h with ⟨c', ph', h, hph'⟩ | ⟨h, -⟩
        · obtain ⟨rfl, rfl⟩ : c' = c ∧ ph' = ph := by simpa using h.symm.trans hcall
          exact hph hph'
        · exact absurd (hcall.symm.trans h) (by simp)
  | abandoned task => exact .abandoned task
  | release task folder => exact .release task folder
  | drain task => exact .drain task
  | workspaceActivity folder => exact .workspaceActivity folder
  | fileActivity path => exact .fileActivity path

/-- What every move keeps, every run keeps. -/
lemma run_invariant {P : Pool α → Prop}
    (hmove : ∀ (p p' : Pool α) down e, P p → Move down p e p' → P p') {p : Pool α} (h : P p)
    (ms : List (Moment α)) : P (p.run ms) := by
  induction ms generalizing p with
  | nil => exact h
  | cons m ms ih => exact ih (hmove p _ m.down m.event h (move_step m.down p m.event))

/-! ## The tasks under way -/

/-- A call that is found is under way. -/
lemma mem_calls_of_call? {p : Pool α} {task : TaskId} {x : WorkerContext × Phase α}
    (h : p.call? task = some x) : (task, x) ∈ p.calls := by
  obtain ⟨⟨t, y⟩, hfind, rfl⟩ := Option.map_eq_some_iff.1 h
  have ht : t = task := by simpa using List.find?_some hfind
  exact ht ▸ List.mem_of_find?_eq_some hfind

/-- A teardown that is found is under way. -/
lemma mem_teardowns_of_teardown? {p : Pool α} {task : TaskId} {ws : List WorkerId}
    (h : p.teardown? task = some ws) : (task, ws) ∈ p.teardowns := by
  obtain ⟨⟨t, y⟩, hfind, rfl⟩ := Option.map_eq_some_iff.1 h
  have ht : t = task := by simpa using List.find?_some hfind
  exact ht ▸ List.mem_of_find?_eq_some hfind

/-- Without the tasks of a number, the others are found as before, and the number is not. -/
lemma find_filter_ne {β : Type} (xs : List (TaskId × β)) (task task' : TaskId) :
    ((xs.filter (·.1 ≠ task)).find? (·.1 = task')).map (·.2) =
      if task' = task then none else (xs.find? (·.1 = task')).map (·.2) := by
  rw [List.find?_filter]
  split
  · rename_i h
    subst h
    simp
  · rename_i h
    congr 2
    funext x
    by_cases hx : x.1 = task' <;> simp [hx, h]

/-- With one task of a number instead of those that there were, it is found, and the others as
before. -/
lemma find_filter_ne_append {β : Type} (xs : List (TaskId × β)) (task task' : TaskId) (b : β) :
    ((xs.filter (·.1 ≠ task) ++ [(task, b)]).find? (·.1 = task')).map (·.2) =
      if task' = task then some b else (xs.find? (·.1 = task')).map (·.2) := by
  rw [List.find?_append, Option.map_or, find_filter_ne]
  by_cases h : task' = task
  · simp [h]
  · have hne : task ≠ task' := fun e => h e.symm
    simp [h, hne]

/-- Without a task, the other calls are found as before, and the task is not. -/
lemma call?_drop (p : Pool α) (task task' : TaskId) :
    (p.drop task).call? task' = if task' = task then none else p.call? task' :=
  find_filter_ne p.calls task task'

/-- Without a task, the other teardowns are found as before, and the task is not. -/
lemma teardown?_drop (p : Pool α) (task task' : TaskId) :
    (p.drop task).teardown? task' = if task' = task then none else p.teardown? task' :=
  find_filter_ne p.teardowns task task'

/-- A call that was brought to a phase is found there, and the others as before. -/
lemma call?_setCall (p : Pool α) (task task' : TaskId) (c : WorkerContext)
    (next : Phase α × Registry) :
    (p.setCall task c next).call? task' =
      if task' = task then some (c, next.1) else p.call? task' :=
  find_filter_ne_append p.calls task task' (c, next.1)

/-- A teardown that came to some workers is found with them, and the others as before. -/
lemma teardown?_setTeardown (p : Pool α) (task task' : TaskId) (ws : List WorkerId) :
    (p.setTeardown task ws).teardown? task' =
      if task' = task then some ws else p.teardown? task' :=
  find_filter_ne_append p.teardowns task task' ws

/-- A teardown that goes on changes no call but those of its own number. -/
lemma call?_setTeardown (p : Pool α) (task task' : TaskId) (ws : List WorkerId) :
    (p.setTeardown task ws).call? task' = if task' = task then none else p.call? task' :=
  call?_drop p task task'

/-- A call is found in the phase that it was brought to. -/
lemma call?_setCall_self (p : Pool α) (task : TaskId) (c : WorkerContext)
    (next : Phase α × Registry) : (p.setCall task c next).call? task = some (c, next.1) := by
  rw [call?_setCall, if_pos rfl]

/-- A task that was dropped is not found. -/
lemma call?_drop_self (p : Pool α) (task : TaskId) : (p.drop task).call? task = none := by
  rw [call?_drop, if_pos rfl]

/-- The number of the task that an event is about. -/
def Event.task? : Event α → Option TaskId
  | .begin task _ _ | .created task | .notCreated task _ | .worked task _ | .disposed task
  | .abandoned task | .release task _ | .drain task => some task
  | .workspaceActivity _ | .fileActivity _ => none

/-- A move that is about another task leaves a call as it was. -/
lemma call?_move {down : WorkerId → Bool} {p p' : Pool α} {e : Event α} (hm : Move down p e p')
    {task : TaskId} (h : e.task? ≠ some task) : p'.call? task = p.call? task := by
  have hne : ∀ {task' : TaskId}, some task' ≠ some task → ¬ task = task' :=
    fun h he => h (by rw [he])
  cases hm with
  | begin => rw [call?_setCall, if_neg (hne h)]
  | created => exact (call?_setCall ..).trans (if_neg (hne h))
  | notCreated => rw [call?_setCall, if_neg (hne h)]
  | worked => rw [call?_setCall, if_neg (hne h)]
  | settled => rw [call?_setCall, if_neg (hne h)]
  | cleared => rw [call?_setTeardown, if_neg (hne h)]
  | abandoned => rw [call?_drop, if_neg (hne h)]
  | release => exact (call?_setTeardown ..).trans (if_neg (hne h))
  | drain => exact (call?_setTeardown ..).trans (if_neg (hne h))
  | workspaceActivity => rfl
  | fileActivity => rfl
  | idle => rfl

/-- A move that is about another task leaves a teardown as it was. -/
lemma teardown?_move {down : WorkerId → Bool} {p p' : Pool α} {e : Event α}
    (hm : Move down p e p') {task : TaskId} (h : e.task? ≠ some task) :
    p'.teardown? task = p.teardown? task := by
  have hne : ∀ {task' : TaskId}, some task' ≠ some task → ¬ task = task' :=
    fun h he => h (by rw [he])
  cases hm with
  | begin => exact (teardown?_drop ..).trans (if_neg (hne h))
  | created => exact (teardown?_drop ..).trans (if_neg (hne h))
  | notCreated => exact (teardown?_drop ..).trans (if_neg (hne h))
  | worked => exact (teardown?_drop ..).trans (if_neg (hne h))
  | settled => exact (teardown?_drop ..).trans (if_neg (hne h))
  | cleared => exact (teardown?_setTeardown ..).trans (if_neg (hne h))
  | abandoned => exact (teardown?_drop ..).trans (if_neg (hne h))
  | release => exact (teardown?_setTeardown ..).trans (if_neg (hne h))
  | drain => exact (teardown?_setTeardown ..).trans (if_neg (hne h))
  | workspaceActivity => rfl
  | fileActivity => rfl
  | idle => rfl

/-! ## Numbers of tasks -/

/-- No two tasks under way share a number. -/
def Distinct (p : Pool α) : Prop :=
  (p.calls.map (·.1) ++ p.teardowns.map (·.1)).Nodup

/-- The numbers of the tasks that are left when one is dropped. -/
lemma tasks_drop (p : Pool α) (task : TaskId) :
    (p.drop task).calls.map (·.1) ++ (p.drop task).teardowns.map (·.1) =
      (p.calls.map (·.1) ++ p.teardowns.map (·.1)).filter (· ≠ task) := by
  simp only [drop, List.filter_append, List.filter_map]
  rfl

/-- A teardown that is under way is found. -/
lemma teardown?_of_mem {p : Pool α} (hd : p.Distinct) {task : TaskId} {ws : List WorkerId}
    (h : (task, ws) ∈ p.teardowns) : p.teardown? task = some ws := by
  rcases hfind : p.teardown? task with _ | ws'
  · have hno := Option.map_eq_none_iff.1 hfind
    exact absurd (decide_eq_true rfl) (List.find?_eq_none.1 hno _ h)
  · have hmem := mem_teardowns_of_teardown? hfind
    have hnodup : (p.teardowns.map (·.1)).Nodup := (List.nodup_append.1 hd).2.1
    have heq := List.inj_on_of_nodup_map hnodup hmem h rfl
    exact congrArg some (congrArg Prod.snd heq)

namespace Distinct

variable {p : Pool α}

/-- Dropping a task. -/
lemma drop (h : p.Distinct) (task : TaskId) : (p.drop task).Distinct := by
  unfold Distinct
  rw [tasks_drop]
  exact h.filter _

/-- Bringing a call to a phase. -/
lemma setCall (h : p.Distinct) (task : TaskId) (c : WorkerContext) (next : Phase α × Registry) :
    (p.setCall task c next).Distinct := by
  have hd := h.drop task
  have hno : task ∉ (p.drop task).calls.map (·.1) ++ (p.drop task).teardowns.map (·.1) := by
    rw [tasks_drop]
    simp
  unfold Distinct at hd ⊢
  simp only [Pool.setCall, List.map_append, List.map_cons, List.map_nil]
  rw [List.append_assoc]
  exact (List.perm_middle.nodup_iff).2 (List.nodup_cons.2 ⟨hno, hd⟩)

/-- Bringing a teardown to the workers that are left. -/
lemma setTeardown (h : p.Distinct) (task : TaskId) (ws : List WorkerId) :
    (p.setTeardown task ws).Distinct := by
  have hd := h.drop task
  have hno : task ∉ (p.drop task).calls.map (·.1) ++ (p.drop task).teardowns.map (·.1) := by
    rw [tasks_drop]
    simp
  unfold Distinct at hd ⊢
  simp only [Pool.setTeardown, List.map_append, List.map_cons, List.map_nil]
  rw [← List.append_assoc]
  exact List.nodup_append.2 ⟨hd, List.nodup_singleton task, fun a ha b hb e =>
    hno ((List.mem_singleton.1 hb).symm.trans e.symm ▸ ha)⟩

/-- **Tasks keep their numbers to themselves** through every move. -/
lemma move (h : p.Distinct) {down : WorkerId → Bool} {e : Event α} {p' : Pool α}
    (hm : Move down p e p') : p'.Distinct := by
  cases hm with
  | begin => exact h.setCall _ _ _
  | created => exact Distinct.setCall (p := { p with created := _ }) h _ _ _
  | notCreated => exact h.setCall _ _ _
  | worked => exact h.setCall _ _ _
  | settled => exact h.setCall _ _ _
  | cleared => exact h.setTeardown _ _
  | abandoned => exact h.drop _
  | release => exact Distinct.setTeardown (p := { p with registry := _ }) h _ _
  | drain => exact Distinct.setTeardown (p := { p with registry := _ }) h _ _
  | workspaceActivity => exact h
  | fileActivity => exact h
  | idle => exact h

/-- Tasks keep their numbers to themselves through every run. -/
lemma run (h : p.Distinct) (ms : List (Moment α)) : (p.run ms).Distinct :=
  run_invariant (fun _ _ _ _ hp hm => hp.move hm) h ms

/-- At the start there are no tasks. -/
lemma start (s : Settings) : (Pool.start s : Pool α).Distinct :=
  List.nodup_nil

end Distinct

/-! ## Runs in which no task is given up -/

/-- Whether what goes by a number is over, if there is anything: a call has its outcome, a teardown
has no worker left to dispose of. -/
def Over (p : Pool α) (task : TaskId) : Prop :=
  (∀ x ∈ p.calls, x.1 = task → x.2.2.isFinished = true) ∧
    ∀ x ∈ p.teardowns, x.1 = task → x.2 = []

/-- Whether an event leaves every task under way its due: a number is used again, or forgotten, only
when what went by it is over. -/
def Event.Orderly (p : Pool α) : Event α → Prop
  | .begin task _ _ | .abandoned task | .release task _ | .drain task => p.Over task
  | _ => True

/-- Whether all calls and teardowns of a run run to completion: none is given up before it is
over. -/
def Orderly (p : Pool α) : List (Moment α) → Prop
  | [] => True
  | m :: ms => m.event.Orderly p ∧ Orderly (p.step m.down m.event) ms

instance (p : Pool α) (task : TaskId) : Decidable (p.Over task) :=
  inferInstanceAs (Decidable (_ ∧ _))

instance (p : Pool α) : (e : Event α) → Decidable (e.Orderly p)
  | .begin task _ _ | .abandoned task | .release task _ | .drain task =>
    inferInstanceAs (Decidable (p.Over task))
  | .created _ | .notCreated _ _ | .worked _ _ | .disposed _ | .workspaceActivity _
  | .fileActivity _ => instDecidableTrue

/-- Whether a run is orderly can be computed, moment by moment. -/
def decideOrderly (p : Pool α) : (ms : List (Moment α)) → Decidable (p.Orderly ms)
  | [] => instDecidableTrue
  | m :: ms =>
    have := decideOrderly (p.step m.down m.event) ms
    inferInstanceAs (Decidable (m.event.Orderly p ∧ _))

instance (p : Pool α) (ms : List (Moment α)) : Decidable (p.Orderly ms) := decideOrderly p ms

/-! ## A small run -/

/-- A moment at which no worker has gone down. -/
def Moment.calm (e : Event α) : Moment α := ⟨fun _ => false, e⟩

/-- The context of a folder that is its own root. -/
def ownRoot : WorkerContext := ⟨⟨"/w"⟩, ⟨"/w"⟩, none, some "k"⟩

/-- Two calls create a worker each for one root; the second finds that the first was faster, and
while it waits for the disposal of its own worker everything is torn down. -/
def raceAndDrain : List (Moment Unit) :=
  [.calm (.begin 0 ownRoot ⟨0⟩), .calm (.begin 1 ownRoot ⟨0⟩), .calm (.created 0),
    .calm (.created 1), .calm (.drain 2), .calm (.disposed 1)]

end Pool

end LintPool
