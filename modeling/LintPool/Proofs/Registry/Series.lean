import Mathlib.Data.List.Forall2
import LintPool.Proofs.Health.Schedule
import LintPool.Proofs.Registry.Healths
import LintPool.Registry.Run

set_option autoImplicit false

/-!
# Calls for one root, one after the other

A series is a list of calls that run one after the other, each from beginning to end; between them
the world goes its own way. Each call is told of with the verdict on it, its outcome, and what it
asked of the world: creations and work. To tell of the latter the world is made to take notes, which
changes nothing else.

## Main definitions

* `LintPool.Deed` — what a call asks of the world.
* `LintPool.World.noting`, `LintPool.Registry.notingWork` — a world and work that take notes.
* `LintPool.Errand`, `LintPool.Account` — a call that is to run, and what is told of it.
* `LintPool.Registry.series` — what is told of the calls of a series.

## Main results

* `LintPool.Registry.proceed_noting` — taking notes changes nothing else.
* `LintPool.Registry.Ended.run` — how a call ends that was let through.
* `LintPool.Registry.crash_schedule` — a root that keeps crashing follows its schedule.
-/

namespace LintPool

variable {σ α : Type}

/-- What a call asks of the world, and what comes of it. -/
inductive Deed (α : Type) where
  /-- A worker is to be created. -/
  | creation (result : Except WorkerError WorkerId)
  /-- Work is to be done on a worker. -/
  | work (worker : WorkerId) (result : Except WorkerError α)
  deriving Repr

/-- The failure that a creation or work came to. -/
def Deed.failure? : Deed α → Option WorkerError
  | .creation (.error e) | .work _ (.error e) => some e
  | _ => none

/-- A world that takes notes of the creations. -/
def World.noting (world : World σ) (α : Type) : World (σ × List (Deed α)) where
  create c s :=
    let done := world.create c s.1
    (done.1, done.2, s.2 ++ [.creation done.1])
  dispose w s := (world.dispose w s.1, s.2)
  down s := world.down s.1
  now s := world.now s.1

/-- A call that is to run: its context, its work, and what becomes of the world before it. -/
structure Errand (σ α : Type) where
  /-- The context of the call. -/
  context : WorkerContext
  /-- The work of the call. -/
  work : Registry.Work σ α
  /-- What becomes of the world before the call begins. -/
  meanwhile : σ → σ

/-- What is told of a call. -/
structure Account (α : Type) where
  /-- Its context. -/
  context : WorkerContext
  /-- When it began. -/
  now : Instant
  /-- Whether it was let through. -/
  verdict : Except WorkerError Unit
  /-- What it came to. -/
  outcome : Except WorkerError α
  /-- What it asked of the world, in order. -/
  deeds : List (Deed α)

namespace Account

/-- The call as one that asks to be let through. -/
def visit (x : Account α) : Visit := ⟨x.context.workerRoot, x.now, x.verdict⟩

/-- A call takes its turn. Either it comes to a crash, and the crash is the one that its last
creation or work came to; or it is turned away, and has asked nothing of the world. -/
def Takes (x : Account α) : Turn → Prop
  | .crash => ∃ e, x.outcome = .error e ∧ e.isCrash = true ∧
      ∃ d, x.deeds.getLast? = some d ∧ d.failure? = some e
  | .turnedAway retryAfter notifyUser =>
    x.outcome = .error (.unavailable x.context.workerRoot retryAfter notifyUser) ∧ x.deeds = []

end Account

namespace Registry

/-- Work that takes notes of itself. -/
def notingWork (work : Work σ α) : Work (σ × List (Deed α)) α := fun w s =>
  let done := work w s.1
  (done.1, done.2, s.2 ++ [.work w done.1])

/-- What is told of the calls of a series. -/
def series (world : World σ) : List (Errand σ α) → Registry → σ → List (Account α)
  | [], _, _ => []
  | x :: xs, r, s =>
    let s := x.meanwhile s
    let ended := run world x.work x.context r s
    let noted := run (world.noting α) (notingWork x.work) x.context r (s, [])
    { context := x.context
      now := world.now s
      verdict := (r.enter x.context (world.now s)).1
      outcome := ended.1
      deeds := noted.2.2.2 } :: series world xs ended.2.1 ended.2.2

/-! ## From phase to phase -/

section

variable (world : World σ) (work : Work σ α) (c : WorkerContext) (r : Registry) (s : σ)

/-- A call that is over goes no further. -/
lemma proceed_finished (outcome : Except WorkerError α) :
    proceed world work c (.finished outcome) r s = (outcome, r, s) := by
  rw [proceed]

/-- A call that creates a worker goes on with what comes of that. -/
lemma proceed_creating :
    proceed world work c .creating r s =
      proceed world work c
        (r.afterCreation (world.down (world.create c s).2) c (world.create c s).1).1
        (r.afterCreation (world.down (world.create c s).2) c (world.create c s).1 :
          Phase α × Registry).2 (world.create c s).2 := by
  rw [proceed]

/-- A call that works goes on with what comes of the work. -/
lemma proceed_working (w : WorkerId) :
    proceed world work c (.working w) r s =
      proceed world work c (r.afterWork c w (work w s).1).1 (r.afterWork c w (work w s).1).2
        (work w s).2 := by
  rw [proceed]

/-- A call that retires a stale worker disposes of it and creates another. -/
lemma proceed_retiring (stale : WorkerId) :
    proceed world work c (.retiring stale) r s =
      proceed world work c .creating r (world.dispose stale s) := by
  conv_lhs => rw [proceed]

/-- A call with a spare worker disposes of it and works on the chosen one. -/
lemma proceed_settling (chosen spare : WorkerId) :
    proceed world work c (.settling chosen spare) r s =
      proceed world work c (.working chosen) r (world.dispose spare s) := by
  conv_lhs => rw [proceed]

/-- A call whose worker has crashed disposes of it and fails. -/
lemma proceed_evicting (w : WorkerId) (e : WorkerError) :
    proceed world work c (.evicting w e) r s =
      proceed world work c (.finished (.error e)) r (world.dispose w s) := by
  conv_lhs => rw [proceed]

end

/-! ## Taking notes -/

/-- **Taking notes changes nothing else.** -/
lemma proceed_noting (world : World σ) (work : Work σ α) (c : WorkerContext) (phase : Phase α)
    (r : Registry) (s : σ) (deeds : List (Deed α)) :
    (proceed (world.noting α) (notingWork work) c phase r (s, deeds)).1 =
        (proceed world work c phase r s).1 ∧
      (proceed (world.noting α) (notingWork work) c phase r (s, deeds)).2.1 =
        (proceed world work c phase r s).2.1 ∧
      (proceed (world.noting α) (notingWork work) c phase r (s, deeds)).2.2.1 =
        (proceed world work c phase r s).2.2 := by
  induction phase, r, s using proceed.induct world work c generalizing deeds with
  | case1 =>
    rw [proceed_finished, proceed_finished]
    exact ⟨rfl, rfl, rfl⟩
  | case2 r s created next ih =>
    rw [proceed_creating, proceed_creating]
    exact ih _
  | case3 r s worker done next ih =>
    rw [proceed_working, proceed_working]
    exact ih _
  | case4 r s stale ih =>
    rw [proceed_retiring, proceed_retiring]
    exact ih _
  | case5 r s chosen spare ih =>
    rw [proceed_settling, proceed_settling]
    exact ih _
  | case6 r s worker e ih =>
    rw [proceed_evicting, proceed_evicting]
    exact ih _

/-! ## Roots that have a slot -/

/-- A root whose slot was set has one. -/
lemma hasSlot_setSlot (r : Registry) (c : WorkerContext) (s : Slot) :
    ((r.setSlot c s).slots.at? c.workerRoot.components).isSome = true := by
  rw [setSlot, Slots.at?_set, if_pos rfl]
  rfl

/-- A root has a slot once a call has looked into it. -/
lemma hasSlot_lookup (r : Registry) (down : WorkerId → Bool) (c : WorkerContext) :
    ((r.lookup down c).2.slots.at? c.workerRoot.components).isSome = true := by
  unfold lookup
  dsimp only
  split
  · split <;> exact hasSlot_setSlot r c _
  · exact hasSlot_setSlot r c _

/-- A root has a slot once a worker was offered to it. -/
lemma hasSlot_install (r : Registry) (down : WorkerId → Bool) (c : WorkerContext) (w : WorkerId) :
    ((r.install down c w).2.slots.at? c.workerRoot.components).isSome = true := by
  unfold install
  dsimp only
  split
  · split <;> exact hasSlot_setSlot r c _
  · exact hasSlot_setSlot r c _

/-- A crash is counted against a root that has a slot. -/
lemma healthOf_fail_of_crash {r : Registry} {c : WorkerContext}
    (hslot : (r.slots.at? c.workerRoot.components).isSome = true) (worker : Option WorkerId)
    {e : WorkerError} (he : e.isCrash = true) :
    (r.fail c worker e : Phase α × Registry).2.healthOf c.workerRoot.components =
      (r.healthOf c.workerRoot.components).recordCrash := by
  obtain ⟨s, hs⟩ := Option.isSome_iff_exists.1 hslot
  rw [registry_fail]
  simp only [recordFailure, he, hs, Bool.not_true, Bool.false_eq_true, if_false]
  rw [healthOf_of_at? hs]
  split <;> rw [healthOf, Slots.at?_set, if_pos rfl] <;> rfl

/-! ## How a call ends -/

/-- How a call ends that was let through, if it is told with notes: it has asked something of the
world; if it fails, so did the last thing that it asked; and a crash is counted once against its
root. -/
structure Ended (c : WorkerContext) (r : Registry)
    (result : Except WorkerError α × Registry × σ × List (Deed α)) : Prop where
  /-- It has asked something of the world, and fails as the last thing that it asked. -/
  last : ∃ d, result.2.2.2.getLast? = some d ∧ ∀ e, result.1 = .error e → d.failure? = some e
  /-- The policy stays. -/
  policy : result.2.1.policy = r.policy
  /-- A crash is counted once against its root. -/
  health : ∀ e, result.1 = .error e → e.isCrash = true →
    result.2.1.healthOf c.workerRoot.components =
      (r.healthOf c.workerRoot.components).recordCrash

namespace Ended

variable {c : WorkerContext} {r : Registry}

/-- How a call ends depends on the policy and the health of its root alone. -/
lemma congr {r' : Registry} {result : Except WorkerError α × Registry × σ × List (Deed α)}
    (h : Ended c r' result) (hpolicy : r'.policy = r.policy)
    (hhealth : r'.healthOf c.workerRoot.components = r.healthOf c.workerRoot.components) :
    Ended c r result :=
  ⟨h.last, h.policy.trans hpolicy, fun e he hc => (h.health e he hc).trans (by rw [hhealth])⟩

variable (world : World σ) (work : Work σ α)

/-- The end of a call that has just failed. -/
lemma fail (hslot : (r.slots.at? c.workerRoot.components).isSome = true)
    (worker : Option WorkerId) {e : WorkerError} (s : σ × List (Deed α)) {d : Deed α}
    (hlast : s.2.getLast? = some d) (hd : d.failure? = some e) :
    Ended c r (proceed (world.noting α) (notingWork work) c
      (r.fail c worker e).1 (r.fail c worker e : Phase α × Registry).2 s) := by
  have hpolicy := policy_fail (α := α) r c worker e
  have hhealth := healthOf_fail_of_crash (α := α) hslot worker (e := e)
  have hfail : (r.fail c worker e : Phase α × Registry).1 = .finished (.error e) ∨
      ∃ w, (r.fail c worker e : Phase α × Registry).1 = .evicting w e := by
    unfold Registry.fail
    split
    · exact .inr ⟨_, rfl⟩
    · exact .inl rfl
  rcases hfail with hph | ⟨w, hph⟩
  · rw [hph, proceed_finished]
    exact ⟨⟨d, hlast, fun e' he' => by cases he'; exact hd⟩, hpolicy,
      fun e' he' hc => by cases he'; exact hhealth hc⟩
  · rw [hph, proceed_evicting, proceed_finished]
    exact ⟨⟨d, hlast, fun e' he' => by cases he'; exact hd⟩, hpolicy,
      fun e' he' hc => by cases he'; exact hhealth hc⟩

/-- The end of a call that works on a worker. -/
lemma working (hslot : (r.slots.at? c.workerRoot.components).isSome = true) (w : WorkerId)
    (s : σ × List (Deed α)) :
    Ended c r (proceed (world.noting α) (notingWork work) c (.working w) r s) := by
  rw [proceed_working]
  rcases hdone : work w s.1 with ⟨_ | a, s'⟩
  · rename_i e
    simp only [notingWork, hdone]
    exact fail world work hslot (some w) _ (List.getLast?_concat) rfl
  · simp only [notingWork, hdone, afterWork]
    rw [proceed_finished]
    exact ⟨⟨_, List.getLast?_concat, fun e he => by cases he⟩,
      policy_afterWork r c w (.ok a), fun e he => by cases he⟩

/-- The end of a call that waits for the disposal of a worker it does not need. -/
lemma settling (hslot : (r.slots.at? c.workerRoot.components).isSome = true)
    (chosen spare : WorkerId) (s : σ × List (Deed α)) :
    Ended c r (proceed (world.noting α) (notingWork work) c (.settling chosen spare) r s) := by
  rw [proceed_settling]
  exact working world work hslot chosen _

/-- The end of a call that waits for the creation of a worker. -/
lemma creating (hslot : (r.slots.at? c.workerRoot.components).isSome = true)
    (s : σ × List (Deed α)) :
    Ended c r (proceed (world.noting α) (notingWork work) c .creating r s) := by
  rw [proceed_creating]
  rcases hdone : world.create c s.1 with ⟨_ | w, s'⟩
  · rename_i e
    simp only [World.noting, hdone]
    exact fail world work hslot none _ (List.getLast?_concat) rfl
  · simp only [World.noting, hdone]
    have hslot' := hasSlot_install r (world.down s') c w
    have hpolicy := policy_afterCreation (α := α) r (world.down s') c (.ok w)
    have hhealth := healthOf_afterCreation (α := α) r (world.down s') c w c.workerRoot.components
    simp only [afterCreation] at hpolicy hhealth ⊢
    rcases hi : r.install (world.down s') c w with ⟨⟨_ | displaced⟩ | winner, r'⟩ <;>
      rw [hi] at hslot' hpolicy hhealth
    · exact (working world work hslot' w _).congr hpolicy hhealth
    · exact (settling world work hslot' w displaced _).congr hpolicy hhealth
    · exact (settling world work hslot' winner w _).congr hpolicy hhealth

/-- The end of a call that waits for the disposal of a worker that was not fit. -/
lemma retiring (hslot : (r.slots.at? c.workerRoot.components).isSome = true) (stale : WorkerId)
    (s : σ × List (Deed α)) :
    Ended c r (proceed (world.noting α) (notingWork work) c (.retiring stale) r s) := by
  rw [proceed_retiring]
  exact creating world work hslot _

/-- **The end of a call that was let through**, whatever it has found. -/
lemma run {s : σ} (hv : (r.enter c (world.now s)).1 = .ok ()) :
    Ended c (r.enter c (world.now s)).2
      (Registry.run (world.noting α) (notingWork work) c r (s, [])) := by
  have hnow : (world.noting α).now (s, []) = world.now s := rfl
  rw [Registry.run, hnow]
  unfold begin
  rcases he : r.enter c (world.now s) with ⟨_ | _, r'⟩ <;> rw [he] at hv <;> cases hv
  dsimp only
  have hslot := hasSlot_lookup r' ((world.noting α).down (s, [])) c
  have hhealth := healthOf_lookup r' ((world.noting α).down (s, [])) c c.workerRoot.components
  have hpolicy := policy_lookup r' ((world.noting α).down (s, [])) c
  rcases hl : r'.lookup ((world.noting α).down (s, [])) c with ⟨_ | _ | _, r''⟩ <;>
    rw [hl] at hslot hhealth hpolicy
  · exact (working world work hslot _ _).congr hpolicy hhealth
  · exact (retiring world work hslot _ _).congr hpolicy hhealth
  · exact (creating world work hslot _).congr hpolicy hhealth

end Ended

/-- A call that is turned away is over at once, and asks nothing of the world. -/
lemma run_of_error {world : World σ} (work : Work σ α) {c : WorkerContext} {r : Registry} {s : σ}
    {e : WorkerError} (hv : (r.enter c (world.now s)).1 = .error e) :
    Registry.run world work c r s = (.error e, (r.enter c (world.now s)).2, s) := by
  rw [Registry.run]
  unfold begin
  rcases he : r.enter c (world.now s) with ⟨_ | _, r'⟩ <;> rw [he] at hv <;> cases hv
  exact proceed_finished world work c r' s (.error _)

/-- A call that is told with notes comes to the same. -/
lemma run_noting (world : World σ) (work : Work σ α) (c : WorkerContext) (r : Registry) (s : σ) :
    (Registry.run (world.noting α) (notingWork work) c r (s, [])).1 =
        (Registry.run world work c r s).1 ∧
      (Registry.run (world.noting α) (notingWork work) c r (s, [])).2.1 =
        (Registry.run world work c r s).2.1 :=
  have h := proceed_noting world work c (r.begin (world.down s) c (world.now s)).1
    (r.begin (world.down s) c (world.now s) : Phase α × Registry).2 s []
  ⟨h.1, h.2.1⟩

/-! ## Series of calls -/

/-- **What is told of a call**: one that is turned away comes to the verdict on it and has asked
nothing of the world; one that is let through has asked something, and if it fails, so did the last
thing that it asked. -/
lemma told_series {world : World σ} {xs : List (Errand σ α)} {r : Registry} {s : σ} {x : Account α}
    (hx : x ∈ r.series world xs s) :
    (∀ e, x.verdict = .error e → x.outcome = .error e ∧ x.deeds = []) ∧
      (x.verdict = .ok () → ∃ d, x.deeds.getLast? = some d ∧
        ∀ e, x.outcome = .error e → d.failure? = some e) := by
  induction xs generalizing r s with
  | nil => cases hx
  | cons y ys ih =>
    rcases List.mem_cons.1 hx with rfl | hx
    · refine ⟨fun e hv => ?_, fun hv => ?_⟩
      · have hnoting : (r.enter y.context ((world.noting α).now (y.meanwhile s, []))).1 =
          .error e := hv
        exact ⟨by rw [run_of_error y.work hv], by rw [run_of_error _ hnoting]⟩
      · obtain ⟨d, hlast, hfails⟩ := (Ended.run world y.work hv).last
        refine ⟨d, hlast, fun e he => hfails e ?_⟩
        rw [(run_noting world y.work y.context r _).1]
        exact he
    · exact ih hx

/-- A call that crashes if it is let through means to its root what the visit says. -/
lemma healthOf_run {world : World σ} {work : Work σ α} {c : WorkerContext} {r : Registry} {s : σ}
    {verdict : Except WorkerError Unit} (hv : (r.enter c (world.now s)).1 = verdict)
    (hcrash : verdict = .ok () →
      ∃ e, (Registry.run world work c r s).1 = .error e ∧ e.isCrash = true) :
    (Registry.run world work c r s).2.1.policy = r.policy ∧
      (Registry.run world work c r s).2.1.healthOf c.workerRoot.components =
        (r.healthOf c.workerRoot.components).replay r.policy
          (Visit.happenings ⟨c.workerRoot, world.now s, verdict⟩) := by
  have hnow := healthOf_enter r c (world.now s) c.workerRoot.components
  rw [if_pos rfl] at hnow
  rcases verdict with e | _
  · rw [run_of_error work hv]
    exact ⟨rfl, hnow⟩
  · have hend := Ended.run world work hv
    obtain ⟨e, he, hc⟩ := hcrash rfl
    obtain ⟨houtcome, hregistry⟩ := run_noting world work c r s
    rw [← houtcome] at he
    rw [← hregistry, hend.policy, hend.health e he hc, hnow]
    exact ⟨rfl, rfl⟩

/-- The verdicts on calls for one root are those of the policy on its health, which changes as the
calls ask to be let through and crash, if all that are let through do. -/
lemma explains_series {world : World σ} {xs : List (Errand σ α)} {r : Registry} {s : σ}
    {root : Location} (hroot : ∀ x ∈ xs, x.context.workerRoot.components = root)
    (hcrash : ∀ x ∈ r.series world xs s, x.verdict = .ok () →
      ∃ e, x.outcome = .error e ∧ e.isCrash = true) :
    (r.healthOf root).Explains r.policy
      (((r.series world xs s).map Account.visit).flatMap Visit.happenings) := by
  induction xs generalizing r s with
  | nil => trivial
  | cons y ys ih =>
    obtain rfl := hroot y List.mem_cons_self
    obtain ⟨hpolicy, hhealth⟩ := healthOf_run rfl (hcrash _ List.mem_cons_self)
    have hrest := ih (fun x hx => hroot x (List.mem_cons_of_mem _ hx))
      fun x hx => hcrash x (List.mem_cons_of_mem _ hx)
    rw [hpolicy, hhealth] at hrest
    rw [series, List.map_cons, Health.explains_cons_visit]
    exact ⟨verdict_enter r y.context _, hrest⟩

/-- **The schedule of a root that keeps crashing.** Calls for one root run one after the other, with
whatever environment keys and Plug'n'Play configurations, at whatever times; the root never crashed
before, and every call that is let through crashes. Then the calls take the turns of the schedule:
as many crashes as the threshold says; then one outage after the other, each with one notification
that tells the window, quiet rejections that tell the time left until it ends, and one crash at the
first call that does not come before its end.

A call whose turn it is to crash comes to the very failure of its creation or work; one that is
turned away has asked for neither. -/
theorem crash_schedule (world : World σ) (xs : List (Errand σ α)) (settings : Settings)
    (r : Registry) (s : σ) (root : Location) (hpolicy : r.policy = .ofSettings settings)
    (hfresh : r.healthOf root = .fresh)
    (hroot : ∀ x ∈ xs, x.context.workerRoot.components = root)
    (hcrash : ∀ x ∈ r.series world xs s, x.verdict = .ok () →
      ∃ e, x.outcome = .error e ∧ e.isCrash = true) :
    List.Forall₂ Account.Takes (r.series world xs s)
      ((CrashPolicy.ofSettings settings).schedule ((r.series world xs s).map (·.now))) := by
  have hx := explains_series hroot hcrash
  rw [hfresh, hpolicy] at hx
  have hturns := Health.turns_of_fresh settings hx
  rw [List.map_map, List.forall₂_map_left_iff] at hturns
  have hmem := (List.forall₂_and_left _ _).2
    ⟨fun x (hx : x ∈ r.series world xs s) => hx, hturns⟩
  refine hmem.imp fun x turn ⟨hin, hturn⟩ => ?_
  obtain ⟨haway, hthrough⟩ := told_series hin
  cases turn with
  | crash =>
    obtain ⟨e, he, hc⟩ := hcrash x hin hturn
    obtain ⟨d, hlast, hfails⟩ := hthrough hturn
    exact ⟨e, he, hc, d, hlast, hfails e he⟩
  | turnedAway retryAfter notifyUser => exact haway _ hturn

/-- A world that has nothing but a clock: no worker can be created in it. -/
def clockOnly : World Instant where
  create c now := (.error (.crashed c.workerRoot "no such program"), now)
  dispose _ now := now
  down _ _ := false
  now := id

/-- Calls for one root, some seconds after the clock has started. -/
def callsAt (seconds : List Nat) : List (Errand Instant Unit) :=
  seconds.map fun t =>
    { context := ⟨⟨"/w"⟩, ⟨"/w"⟩, none, none⟩
      work := fun _ now => (.ok (), now)
      meanwhile := fun _ => ⟨t * Span.second⟩ }

/-- The standard settings, but each outage is twice as long as the one before. -/
def doubling : Settings := { Settings.standard with suppressionBackoff := .ofNat 2 }

/-- Where no worker can be created, seven calls take these turns. -/
theorem crash_schedule_clockOnly :
    List.Forall₂ Account.Takes
      ((ofSettings doubling).series clockOnly (callsAt [0, 1, 2, 31, 32, 33, 93]) ⟨0⟩)
      [.crash, .crash, .turnedAway (.ofSeconds 30) true, .turnedAway (.ofSeconds 1) false, .crash,
        .turnedAway (.ofSeconds 60) true, .crash] := by
  have hcrash : ∀ x ∈ (ofSettings doubling).series clockOnly
      (callsAt [0, 1, 2, 31, 32, 33, 93]) ⟨0⟩,
      x.verdict = .ok () → x.outcome = .error (.crashed ⟨"/w"⟩ "no such program") := by
    decide +kernel
  have hschedule : (CrashPolicy.ofSettings doubling).schedule
      (((ofSettings doubling).series clockOnly
        (callsAt [0, 1, 2, 31, 32, 33, 93]) ⟨0⟩).map (·.now)) =
      [.crash, .crash, .turnedAway (.ofSeconds 30) true, .turnedAway (.ofSeconds 1) false, .crash,
        .turnedAway (.ofSeconds 60) true, .crash] := by
    decide +kernel
  rw [← hschedule]
  exact crash_schedule clockOnly (callsAt [0, 1, 2, 31, 32, 33, 93]) doubling (ofSettings doubling)
    ⟨0⟩ (Path.mk "/w").components rfl rfl (by decide)
    fun x hx hv => ⟨_, hcrash x hx hv, rfl⟩

end Registry

end LintPool
