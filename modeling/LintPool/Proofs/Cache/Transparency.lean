import Mathlib.Data.List.Induction
import LintPool.Proofs.Cache.Lookups

set_option autoImplicit false

/-!
# What is remembered does not show

The tree changes, lookups are made, and what is remembered is forgotten in parts. If every path
about which the tree has changed its mind is invalidated before the next lookup, then a lookup comes
to what it would come to without a memory. And a lookup that succeeded needs no search when it is
made again, until one of the paths that it looked at is invalidated or its workspace folder is
cleared.

## Main definitions

* `LintPool.Outlook` — a tree and what is remembered of it.
* `LintPool.Outlook.Event`, `LintPool.Outlook.run` — what comes about, and runs.
* `LintPool.Outlook.Told` — every change is told before the next lookup.
* `LintPool.Outlook.Event.Drops` — an event makes a lookup forgotten.
* `LintPool.Outlook.markerAppears` — a small run in which a marker appears.

## Main results

* `LintPool.Outlook.backed_run` — what is remembered is what searches came to, but for what is left
  untold.
* `LintPool.Outlook.memory_transparent` — lookups come to what they would come to without a memory,
  and are not searched for again.
-/

namespace LintPool

/-- A tree, by what it says when it is looked at, and what is remembered of it. -/
structure Outlook where
  /-- What the tree says. -/
  looks : Probe
  /-- What is remembered. -/
  memory : Memory

namespace Outlook

/-! ## Runs -/

/-- What comes about. -/
inductive Event where
  /-- The tree changes to one that says something else. -/
  | change (looks : Probe)
  /-- A lookup is made. -/
  | ask (q : Lookup)
  /-- A path is invalidated. -/
  | invalidate (kind : Memory.Kind) (p : Path)
  /-- A workspace folder is cleared. -/
  | clearWorkspace (kind : Memory.Kind) (ws : Path)
  /-- Everything is cleared. -/
  | clear (kind : Memory.Kind)

/-- Nothing is remembered of a tree. -/
def start (marker : String) (looks : Probe) : Outlook := ⟨looks, .empty marker⟩

/-- What an event makes of a tree and what is remembered of it. -/
def step (o : Outlook) : Event → Outlook
  | .change looks => { o with looks }
  | .ask q => { o with memory := (o.memory.ask o.looks q).2 }
  | .invalidate kind p => { o with memory := o.memory.invalidate kind p }
  | .clearWorkspace kind ws => { o with memory := o.memory.clearWorkspace kind ws }
  | .clear kind => { o with memory := o.memory.clear kind }

/-- What several events make of it. -/
def run (o : Outlook) (es : List Event) : Outlook :=
  es.foldl step o

/-- What a lookup is answered. -/
def answer (o : Outlook) (q : Lookup) : Except SearchError Found :=
  (o.memory.ask o.looks q).1

/-- A run in two parts. -/
lemma run_append (o : Outlook) (es fs : List Event) : o.run (es ++ fs) = (o.run es).run fs :=
  List.foldl_append

/-! ## What is left untold -/

/-- Every change is told before the next lookup: a path about which the tree has changed its mind
is invalidated, in some spelling, in both memories. -/
def Told (o : Outlook) (es : List Event) : Prop :=
  ∀ before looks between q after,
    es = before ++ .change looks :: (between ++ .ask q :: after) →
      ∀ p, looks p ≠ (o.run before).looks p →
        ∀ kind, ∃ p', p'.Same p ∧ .invalidate kind p' ∈ between

/-- A path that some lookup may look at. -/
def Reach (marker : String) (es : List Event) (p : Path) : Prop :=
  ∃ q, .ask q ∈ es ∧ p ∈ q.reach marker

/-- A path about which the tree has changed its mind, and which was not invalidated since. -/
def Untold (o : Outlook) (es : List Event) (kind : Memory.Kind) (s : Location) : Prop :=
  ∃ before looks between p, es = before ++ .change looks :: between ∧ p.components = s ∧
    looks p ≠ (o.run before).looks p ∧ ∀ p', p'.Same p → .invalidate kind p' ∉ between

/-- What is untold remains so, until it is invalidated. -/
lemma Untold.snoc {o : Outlook} {es : List Event} {kind : Memory.Kind} {s : Location}
    (h : o.Untold es kind s) {e : Event}
    (he : ∀ p, e = .invalidate kind p → p.components ≠ s) : o.Untold (es ++ [e]) kind s := by
  obtain ⟨before, looks, between, p, rfl, rfl, hlook, hnot⟩ := h
  refine ⟨before, looks, between ++ [e], p, by simp, rfl, hlook, fun p' hp' hmem => ?_⟩
  obtain hmem | heq := List.mem_append.1 hmem
  · exact hnot p' hp' hmem
  · exact he p' (List.mem_singleton.1 heq).symm hp'

/-- What the tree changes its mind about is untold. -/
lemma untold_change {o : Outlook} {es : List Event} {looks : Probe} {p : Path}
    (h : (o.run es).looks p ≠ looks p) (kind : Memory.Kind) :
    o.Untold (es ++ [.change looks]) kind p.components :=
  ⟨es, looks, [], p, rfl, rfl, h.symm, fun _ _ => List.not_mem_nil⟩

/-- Nothing is untold when a lookup is made. -/
lemma Told.not_untold {o : Outlook} {es before after : List Event} {q : Lookup} (h : o.Told es)
    (hes : es = before ++ .ask q :: after) (kind : Memory.Kind) (s : Location) :
    ¬ o.Untold before kind s := by
  rintro ⟨before', looks, between, p, rfl, rfl, hlook, hnot⟩
  obtain ⟨p', hp', hmem⟩ := h before' looks between q after (by simp [hes]) p hlook kind
  exact hnot p' hp' hmem

/-! ## The invariant -/

/-- **What is remembered is what searches came to**, but for what is left untold.

**Proof sketch.** Induction on the run. A change leaves untold what it changes, an invalidation
drops the entries that list its path, clearing only drops entries, and a lookup, before which all
has been told, remembers what a search comes to now. -/
lemma backed_run {marker : String} {looks : Probe} {es : List Event} {reach : Path → Prop}
    (htold : (start marker looks).Told es)
    (hreach : ∀ q, .ask q ∈ es → ∀ p ∈ q.reach marker, reach p)
    (heven : ∀ before q after, es = before ++ .ask q :: after →
      EvenHanded ((start marker looks).run before).looks reach) {before after : List Event}
    (hes : es = before ++ after) :
    ((start marker looks).run before).memory.Backed marker reach
      ((start marker looks).Untold before) ((start marker looks).run before).looks := by
  induction before using List.reverseRecOn generalizing after with
  | nil => exact .empty
  | append_singleton before e ih =>
    have hes' : es = before ++ e :: after := by simp [hes]
    have hbacked := ih hes'
    have hkept : (∀ kind p, e ≠ .invalidate kind p) → ∀ kind s,
        (start marker looks).Untold before kind s →
          (start marker looks).Untold (before ++ [e]) kind s :=
      fun hne kind s hs => hs.snoc fun p he => (hne kind p he).elim
    rw [run_append]
    cases e with
    | change looks' =>
      exact hbacked.mono fun kind p h =>
        h.elim (hkept (by simp) kind _) fun h => untold_change h kind
    | ask q =>
      have hnone := htold.not_untold hes'
      have htrue : ((start marker looks).run before).memory.Backed marker reach (fun _ _ => False)
          ((start marker looks).run before).looks := hbacked.mono fun kind p h =>
        hnone kind _ (h.resolve_right fun hne => hne rfl)
      have hasked := htrue.ask (heven _ _ _ hes') (hreach q (by simp [hes']))
      exact hasked.1.mono fun kind p h => (h.resolve_right fun hne => hne rfl).elim
    | invalidate kind p =>
      refine hbacked.invalidate fun k s hne hs => hs.snoc fun p' he => ?_
      cases he
      exact (hne rfl).symm
    | clearWorkspace kind ws =>
      exact (hbacked.clearWorkspace kind ws).mono fun k p h =>
        hkept (by simp) k _ (h.resolve_right fun hne => hne rfl)
    | clear kind =>
      exact (hbacked.clear kind).mono fun k p h =>
        hkept (by simp) k _ (h.resolve_right fun hne => hne rfl)

/-! ## Lookups made again -/

/-- An event makes a lookup forgotten that has looked at some paths: one of these is invalidated, or
its workspace folder is cleared. -/
def Event.Drops (q : Lookup) (probed : List Path) : Event → Prop
  | .invalidate kind p => kind = q.kind ∧ ∃ p' ∈ probed, p'.Same p
  | .clearWorkspace kind ws => kind = q.kind ∧ ws.Same q.workspace
  | .clear kind => kind = q.kind
  | _ => False

/-- What is remembered stays when something comes about that does not make it forgotten. -/
lemma remembers_step {o : Outlook} {marker : String} {reach : Path → Prop}
    {untold : Memory.Kind → Location → Prop} (hb : o.memory.Backed marker reach untold o.looks)
    {q : Lookup} {found : Found} {probed : List Path}
    (h : o.memory.Remembers q found (probed.map Path.components)) {e : Event}
    (he : ¬ e.Drops q probed) :
    (o.step e).memory.Remembers q found (probed.map Path.components) := by
  cases e with
  | change looks => exact h
  | ask q' => exact h.ask o.looks q'
  | invalidate kind p =>
    refine h.invalidate hb fun ⟨hkind, hmem⟩ => he ⟨hkind, ?_⟩
    obtain ⟨p', hp', hsame⟩ := List.mem_map.1 hmem
    exact ⟨p', hp', hsame⟩
  | clearWorkspace kind ws => exact h.clearWorkspace hb he
  | clear kind => exact h.clear he

/-! ## Transparency -/

/-- **What is remembered does not show.** Where every change is told before the next lookup, and the
tree answers alike for different spellings of what lookups look at, every lookup comes to what it
comes to without a memory, in a failure too. And after a lookup has succeeded, having looked at some
paths, the same lookup is answered without a look at the tree, in which nothing changes, not even
the number of searches, as long as none of these paths is invalidated and its workspace folder is
not cleared.

**Proof sketch.** What is remembered is what searches came to, and at a lookup nothing is untold. So
what a lookup finds or searches for is like what is there, and it is then remembered with the paths
that a search looks at now; an event that names none of them leaves that as it is. -/
theorem memory_transparent (marker : String) (looks : Probe) (es : List Event)
    (htold : (start marker looks).Told es)
    (heven : ∀ before q after, es = before ++ .ask q :: after →
      EvenHanded ((start marker looks).run before).looks (Reach marker es)) :
    (∀ before q after, es = before ++ .ask q :: after →
      AnswersLike Found.Same (((start marker looks).run before).answer q)
        ((q.search marker ((start marker looks).run before).looks).map (·.1))) ∧
      ∀ before q between after q' found w probed,
        es = before ++ .ask q :: (between ++ after) →
          ((start marker looks).run before).answer q = .ok found →
            q.search marker ((start marker looks).run before).looks = .ok (w, probed) →
              (∀ e ∈ between, ¬ e.Drops q probed) → q.Same q' → ∀ looks',
                ((start marker looks).run (before ++ .ask q :: between)).memory.ask looks' q' =
                  (.ok found, ((start marker looks).run (before ++ .ask q :: between)).memory) := by
  have hreach : ∀ q, .ask q ∈ es → ∀ p ∈ q.reach marker, Reach marker es p :=
    fun q hq p hp => ⟨q, hq, hp⟩
  have hfaithful : ∀ before q after, es = before ++ .ask q :: after →
      Faithful Found.Same ((((start marker looks).run before).step (.ask q)).memory.Remembers q)
        (((start marker looks).run before).answer q)
        (q.search marker ((start marker looks).run before).looks) := by
    intro before q after hes
    have hbacked := backed_run htold hreach heven hes
    have hnone := htold.not_untold hes
    refine ((hbacked.mono fun kind p h => ?_).ask (heven _ _ _ hes) (hreach q (by simp [hes]))).2
    exact hnone kind _ (h.resolve_right fun hne => hne rfl)
  refine ⟨fun before q after hes => (hfaithful before q after hes).answersLike, ?_⟩
  intro before q between after q' found w probed hes hanswer hsearch hdrops hsame looks'
  suffices hremembers : ((start marker looks).run (before ++ .ask q :: between)).memory.Remembers q
      found (probed.map Path.components) from (hremembers.same hsame).ask_eq looks'
  induction between using List.reverseRecOn generalizing after with
  | nil =>
    have hf := hfaithful before q after hes
    rw [hanswer, hsearch] at hf
    rw [run_append]
    cases hf with
    | ok like known => exact known
  | append_singleton between e ih =>
    have hes' : es = (before ++ .ask q :: between) ++ e :: after := by simp [hes]
    have hb := backed_run htold hreach heven hes'
    rw [show before ++ .ask q :: (between ++ [e]) = (before ++ .ask q :: between) ++ [e] by simp,
      run_append]
    refine remembers_step hb (ih (e :: after) (by simp [hes]) fun e' he' => ?_) ?_
    · exact hdrops e' (List.mem_append_left _ he')
    · exact hdrops e (by simp)

/-! ## A marker appears -/

/-- A tree that holds some files and nothing else. -/
def holding (files : List Path) : Probe := fun p => .ok (decide (∃ f ∈ files, f.Same p))

/-- A tree that holds some files answers alike for all spellings. -/
lemma evenHanded_holding (files : List Path) (reach : Path → Prop) :
    EvenHanded (holding files) reach := by
  intro p p' _ _ hsame
  have hcomponents : p.components = p'.components := hsame
  exact congrArg Except.ok (decide_eq_decide.2 (by simp only [Path.Same, hcomponents]))

/-- The tree says what it said at the start, or what it changed to. -/
lemma looks_run (o : Outlook) (es : List Event) :
    (o.run es).looks = o.looks ∨ .change (o.run es).looks ∈ es := by
  induction es using List.reverseRecOn with
  | nil => exact .inl rfl
  | append_singleton es e ih =>
    rw [run_append]
    cases e with
    | change looks => exact .inr (List.mem_append_right _ (List.mem_singleton_self _))
    | _ => exact ih.imp_right fun h => List.mem_append_left _ h

/-- The root of a file. -/
def rootOfFile : Lookup := .root ⟨"/w"⟩ ⟨"/w/a/b.js"⟩

/-- The root of a file is asked for, a marker appears above the file and is told of, the root is
asked for again, and then another workspace folder is cleared. -/
def markerAppears : List Event :=
  [.ask rootOfFile, .change (holding [⟨"/w/a/package.json"⟩]),
    .invalidate .roots ⟨"/w//a/package.json"⟩, .invalidate .loaders ⟨"/w//a/package.json"⟩,
    .ask rootOfFile, .clearWorkspace .roots ⟨"/v"⟩]

/-- The marker is told of. -/
lemma told_markerAppears : (start "package.json" (holding [])).Told markerAppears := by
  intro before looks between q after hes p hlook kind
  rcases before with _ | ⟨e, _ | ⟨e', before⟩⟩
  · simp [markerAppears] at hes
  · obtain ⟨rfl, rfl, hrest⟩ : .ask rootOfFile = e ∧ holding [⟨"/w/a/package.json"⟩] = looks ∧
        [.invalidate .roots ⟨"/w//a/package.json"⟩, .invalidate .loaders ⟨"/w//a/package.json"⟩,
          .ask rootOfFile, .clearWorkspace .roots ⟨"/v"⟩] = between ++ .ask q :: after := by
      simpa [markerAppears] using hes
    have hsame : (⟨"/w/a/package.json"⟩ : Path).Same p := by
      by_contra hne
      exact hlook (by simp [holding, hne, run, step, start])
    refine ⟨⟨"/w//a/package.json"⟩, .trans (by decide +kernel) hsame, ?_⟩
    rcases between with _ | ⟨b, _ | ⟨b', between⟩⟩
    · simp at hrest
    · simp at hrest
    · obtain ⟨rfl, rfl, -⟩ : _ ∧ _ ∧ _ := by simpa using hrest
      cases kind <;> simp
  · have hmem : Event.change looks ∈ markerAppears.drop 2 := by simp [hes]
    simp [markerAppears] at hmem

/-- The root is found once the marker is there, and is not searched for again when another workspace
folder was cleared. -/
theorem memory_transparent_markerAppears :
    AnswersLike Found.Same
        (((start "package.json" (holding [])).run (markerAppears.take 4)).answer rootOfFile)
        (.ok (.root (some ⟨"/w/a"⟩))) ∧
      ∀ looks', ((start "package.json" (holding [])).run markerAppears).memory.ask looks'
          (.root ⟨"/w/"⟩ ⟨"/w//a/b.js"⟩) =
        (.ok (.root (some ⟨"/w/a"⟩)),
          ((start "package.json" (holding [])).run markerAppears).memory) := by
  have heven : ∀ before q after, markerAppears = before ++ .ask q :: after →
      EvenHanded ((start "package.json" (holding [])).run before).looks
        (Reach "package.json" markerAppears) := by
    intro before q after hes
    obtain h | h := looks_run (start "package.json" (holding [])) before
    · rw [h]
      exact evenHanded_holding _ _
    · have hmem : .change ((start "package.json" (holding [])).run before).looks ∈ markerAppears :=
        hes ▸ List.mem_append_left _ h
      have heq : ((start "package.json" (holding [])).run before).looks =
          holding [⟨"/w/a/package.json"⟩] := by
        simpa [markerAppears] using hmem
      rw [heq]
      exact evenHanded_holding _ _
  obtain ⟨hlike, hagain⟩ := memory_transparent "package.json" (holding []) markerAppears
    told_markerAppears heven
  have hother : ¬ (⟨"/v"⟩ : Path).Same ⟨"/w"⟩ := by decide +kernel
  refine ⟨hlike (markerAppears.take 4) rootOfFile (markerAppears.drop 5) rfl, ?_⟩
  refine hagain (markerAppears.take 4) rootOfFile (markerAppears.drop 5) []
    (.root ⟨"/w/"⟩ ⟨"/w//a/b.js"⟩) (.root (some ⟨"/w/a"⟩)) (.root (some ⟨"/w/a"⟩))
    [⟨"/w/a/b.js/package.json"⟩, ⟨"/w/a/package.json"⟩] rfl rfl rfl ?_
    ⟨by decide +kernel, by decide +kernel⟩
  simp [markerAppears, Event.Drops, rootOfFile, Lookup.workspace, hother]

end Outlook

end LintPool
