import LintPool.Proofs.Cache.Desk
import LintPool.Proofs.Cache.Lookups

set_option autoImplicit false

/-!
# Invalidations that lookups outlive

An invalidation drops what is stored, and so does clearing. A lookup that is under way at that
moment has nothing stored yet, and nothing tells it: what it comes to is stored afterwards, with
what it saw before. Nothing else survives.

## Main definitions

* `LintPool.Desk.Answers` — where the answer to a lookup comes from.
* `LintPool.Desk.Continues` — a walk was there at some moment, or has begun since.
* `LintPool.Desk.markerMissed` — a small run in which an invalidation is lost.

## Main results

* `LintPool.Desk.continues_run` — what is there in the end was there before, or has begun since.
* `LintPool.Desk.survives_iff` — an answer is older than an invalidation or a clearing if and only
  if its walk was under way at that moment.
-/

namespace LintPool

/-- A walk looked at a path before some moment. -/
def Trace.LookedAt (tr : Trace) (p : Path) (moment : Nat) : Prop :=
  ∃ l ∈ tr.looks, l.1 = p.components ∧ l.2 < moment

/-- What is remembered of one kind. -/
abbrev Memory.Kind.Value : Memory.Kind → Type
  | .roots => Option Path
  | .loaders => Option PnpConfiguration

/-- The search for what is remembered of one kind. -/
def Memory.Kind.walk (marker : String) : (kind : Memory.Kind) → Path → Path → Walk kind.Value
  | .roots => rootWalk marker
  | .loaders => loaderWalk

/-- The searches record what they look at. -/
lemma Memory.Kind.records_walk (marker : String) (kind : Memory.Kind) (ws path : Path) :
    (kind.walk marker ws path).Records [] := by
  cases kind with
  | roots => exact records_rootWalk marker ws path
  | loaders => exact records_loaderWalk ws path

namespace Desk

variable {α : Type} {walkOf : Path → Path → Walk α} {d : Desk α}

/-! ## What is there was there before -/

/-- A walk is under way, or what it came to is stored. -/
def Holds (d : Desk α) (tr : Trace) : Prop :=
  (∃ e ∈ d.quests, e.trace = tr) ∨ ∃ key, d.Stores key tr

/-- A walk was there at some moment and may have made looks since, or it has begun since. -/
def Continues (d : Desk α) (tr : Trace) : Prop :=
  (d.now ≤ tr.began ∧ ∀ l ∈ tr.looks, d.now ≤ l.2) ∨
    ∃ tr' later, d.Holds tr' ∧ tr = { tr' with looks := tr'.looks ++ later } ∧
      ∀ l ∈ later, d.now ≤ l.2

/-- What is there was there. -/
lemma Holds.continues {tr : Trace} (h : d.Holds tr) : d.Continues tr :=
  .inr ⟨tr, [], h, by simp, by simp⟩

/-- Where less is stored and less is under way, less is there. -/
lemma Holds.of_fewer {d' : Desk α} {tr : Trace} (h : d'.Holds tr)
    (hcache : ∀ {key e}, d'.cache.find? key = some e → d.cache.find? key = some e)
    (horigins : d'.origins = d.origins) (hquests : d'.quests ⊆ d.quests) : d.Holds tr := by
  obtain ⟨e, he, rfl⟩ | ⟨key, hentry, horigin⟩ := h
  · exact .inl ⟨e, hquests he, rfl⟩
  · refine .inr ⟨key, hentry.imp fun _ => hcache, ?_⟩
    rwa [origin?, ← horigins]

/-- What is there after an event was there before it, or has begun with it. -/
lemma continues_step (hd : d.Sound) {tr : Trace} {ev : Event} (h : (d.step walkOf ev).Holds tr) :
    d.Continues tr := by
  have hmove := move_act walkOf d ev
  unfold Desk.step at h
  generalize d.act walkOf ev = d' at hmove h
  cases hmove with
  | answered | idle => exact Holds.continues h
  | setOut ws path =>
    obtain ⟨e, he, rfl⟩ | hs := h
    · obtain he | he := List.mem_append.1 he
      · exact Holds.continues (.inl ⟨e, he, rfl⟩)
      · obtain rfl := List.mem_singleton.1 he
        exact .inl ⟨Nat.le_refl _, by simp⟩
    · exact Holds.continues (.inr hs)
  | looked began answer =>
    obtain ⟨e, he, rfl⟩ | hs := h
    · obtain ⟨e', he', -, rfl | ⟨p, next, -, rfl⟩⟩ := mem_looked he
      · exact Holds.continues (.inl ⟨e, he', rfl⟩)
      · exact .inr ⟨e'.trace, [(p.components, d.now)], .inl ⟨e', he', rfl⟩, rfl, by simp⟩
    · exact Holds.continues (.inr hs)
  | stored trace v probed hquest =>
    obtain ⟨e, he, rfl⟩ | ⟨key, hs⟩ := h
    · exact Holds.continues (.inl ⟨e, (List.mem_filter.1 he).1, rfl⟩)
    · obtain ⟨-, rfl⟩ | ⟨-, hs⟩ := stores_settled hs
      · exact Holds.continues (.inl ⟨_, hquest, rfl⟩)
      · exact Holds.continues (.inr ⟨key, hs⟩)
  | failed | abandoned => exact Holds.continues (h.of_fewer id rfl (List.filter_subset_self _))
  | invalidated p =>
    refine Holds.continues (h.of_fewer (fun he => ?_) rfl (List.Subset.refl _))
    exact ((FileCache.find?_invalidate hd.indexed _).1 he).1
  | cleared ws =>
    refine Holds.continues (h.of_fewer (fun he => ?_) rfl (List.Subset.refl _))
    exact ((FileCache.find?_clearWorkspace hd.indexed _).1 he).1
  | clearedAll =>
    exact Holds.continues (h.of_fewer (fun he => by cases he) rfl (List.Subset.refl _))

/-- **What is there in the end** was there before, or has begun since.

**Proof sketch.** Induction on the run. What was there after the first event was there before it or
has begun with it; looks made later are made later still. -/
lemma continues_run (hd : d.Sound) (hwalk : ∀ ws path, (walkOf ws path).Records [])
    {es : List Event} {tr : Trace} (h : (d.run walkOf es).Holds tr) : d.Continues tr := by
  induction es generalizing d with
  | nil => exact h.continues
  | cons ev es ih =>
    have hnow : (d.step walkOf ev).now = d.now + 1 := rfl
    obtain ⟨hbegan, hlooks⟩ | ⟨tr', later, hholds, rfl, hlater⟩ := ih (hd.step hwalk ev) h
    · exact .inl ⟨by omega, fun l hl => by have := hlooks l hl; omega⟩
    · have hsince : ∀ l ∈ later, d.now ≤ l.2 := fun l hl => by
        have := hlater l hl
        omega
      obtain ⟨hbegan, hlooks⟩ | ⟨tr, later', hholds', rfl, hlater'⟩ := continues_step hd hholds
      · exact .inl ⟨hbegan, fun l hl => (List.mem_append.1 hl).elim (hlooks l) (hsince l)⟩
      · refine .inr ⟨tr, later' ++ later, hholds', by simp, fun l hl => ?_⟩
        exact (List.mem_append.1 hl).elim (hlater' l) (hsince l)

/-! ## What survives -/

/-- A run in two parts. -/
lemma run_append (d : Desk α) (es fs : List Event) :
    d.run walkOf (es ++ fs) = (d.run walkOf es).run walkOf fs :=
  List.foldl_append

/-- A lookup that starts now is answered from the cache, with a value that a walk came to. -/
def Answers (d : Desk α) (ws path : Path) (v : α) (tr : Trace) : Prop :=
  d.cache.get? (.of ws path) = some v ∧ d.origin? (.of ws path) = some tr


/-- What answers a lookup is stored. -/
lemma Answers.stores {ws path : Path} {v : α} {tr : Trace} (h : d.Answers ws path v tr) :
    d.Stores (.of ws path) tr := by
  obtain ⟨e, he, -⟩ := Option.map_eq_some_iff.1 h.1
  exact ⟨⟨e, he⟩, h.2⟩

/-- What a stored answer comes from was asked for under its key. -/
lemma Sound.key_of_stores (h : d.Sound) {key : CacheKey} {tr : Trace} (hs : d.Stores key tr) :
    tr.key = key := by
  obtain ⟨⟨e, he⟩, horigin⟩ := hs
  obtain ⟨tr', horigin', hkey, -, -⟩ := h.stored he
  rw [horigin] at horigin'
  exact Option.some.inj horigin' ▸ hkey

/-- A walk that began before some moment, or looked at something before it, and from which a lookup
is answered later, was under way right after that moment, or what it came to was stored then. -/
lemma older_cases (hd : d.Sound) (hwalk : ∀ ws path, (walkOf ws path).Records []) {ev : Event}
    {after : List Event} {key : CacheKey} {tr : Trace}
    (h : ((d.step walkOf ev).run walkOf after).Stores key tr)
    (hold : tr.began < d.now ∨ ∃ l ∈ tr.looks, l.2 < d.now) :
    ∃ tr' later, tr = { tr' with looks := tr'.looks ++ later } ∧ (∀ l ∈ later, d.now ≤ l.2) ∧
      ((∃ e ∈ (d.step walkOf ev).quests, e.trace = tr') ∨ (d.step walkOf ev).Stores key tr') := by
  have hnow : (d.step walkOf ev).now = d.now + 1 := rfl
  have hsound := hd.step hwalk ev
  obtain ⟨hbegan, hlooks⟩ | ⟨tr', later, hholds, rfl, hlater⟩ :=
    continues_run hsound hwalk (.inr ⟨key, h⟩)
  · obtain hold | ⟨l, hl, hold⟩ := hold
    · omega
    · have := hlooks l hl
      omega
  · refine ⟨tr', later, rfl, fun l hl => by have := hlater l hl; omega, hholds.imp_right ?_⟩
    rintro ⟨key', hs⟩
    have hkey' := hsound.key_of_stores hs
    have hkey := (hsound.run hwalk after).key_of_stores h
    exact (hkey'.symm.trans hkey) ▸ hs

/-- A walk under way at some moment, from which a lookup is answered later, has looked at what it
had looked at then. -/
lemma looks_of_underway (hd : d.Sound) (hwalk : ∀ ws path, (walkOf ws path).Records [])
    {es : List Event} {tr : Trace} (h : (d.run walkOf es).Holds tr) {e : Quest α}
    (he : e ∈ d.quests) (hbegan : e.trace.began = tr.began) : e.trace.looks ⊆ tr.looks := by
  have hlt := hd.began he
  obtain ⟨hnew, -⟩ | ⟨tr', later, ⟨e', he', rfl⟩ | ⟨key, hs⟩, rfl, -⟩ := continues_run hd hwalk h
  · omega
  · rw [hd.unique he he' hbegan]
    exact List.subset_append_left _ _
  · exact (hd.apart he hs hbegan.symm).elim

/-- **What survives.** A lookup that starts now and is answered from the cache is answered from what
a walk saw of a path before it was invalidated, if and only if the walk was under way when it was,
and had looked at the path; and from a walk that began before its workspace folder, or everything,
was cleared, if and only if the walk was under way then. A lookup that is not answered from the
cache looks for itself, after it has begun.

**Proof sketch.** What the walk has come to was not stored right after the invalidation or the
clearing, as all that depended on the path, or belonged to the folder, was dropped. So it was stored
later, and the walk was under way before. Conversely what a walk has looked at remains with it. -/
theorem survives_iff (kind : Memory.Kind) (marker : String) (es : List Event) (ws path : Path)
    (v : kind.Value) (tr : Trace) (h : (empty.run (kind.walk marker) es).Answers ws path v tr) :
    (∀ before p after, es = before ++ .invalidate p :: after →
      (tr.LookedAt p (empty.run (kind.walk marker) before).now ↔
        ∃ e ∈ (empty.run (kind.walk marker) before).quests, e.trace.began = tr.began ∧
          e.trace.LookedAt p (empty.run (kind.walk marker) before).now)) ∧
    (∀ before w after, es = before ++ .clearWorkspace w :: after → w.Same ws →
      (tr.began < (empty.run (kind.walk marker) before).now ↔
        ∃ e ∈ (empty.run (kind.walk marker) before).quests, e.trace.began = tr.began)) ∧
    (∀ before after, es = before ++ .clear :: after →
      (tr.began < (empty.run (kind.walk marker) before).now ↔
        ∃ e ∈ (empty.run (kind.walk marker) before).quests, e.trace.began = tr.began)) ∧
    ∀ e ∈ (empty.run (kind.walk marker) es).quests, ∀ l ∈ e.trace.looks,
      e.trace.began ≤ l.2 := by
  have hwalk := kind.records_walk marker
  have hsound : ∀ es : List Event, (empty.run (kind.walk marker) es).Sound :=
    fun es => Sound.empty.run hwalk es
  refine ⟨?_, ?_, ?_, fun e he l hl => ((hsound es).since he l hl).1⟩
  · rintro before p after rfl
    have hd := hsound before
    rw [run_append] at h
    refine ⟨fun ⟨l, hl, hp, hlt⟩ => ?_, fun ⟨e, he, hbegan, l, hl, hp, hlt⟩ => ?_⟩
    · obtain ⟨tr', later, rfl, hlater, ⟨e, he, rfl⟩ | hs⟩ :=
        older_cases hd hwalk h.stores (.inr ⟨l, hl, hlt⟩)
      all_goals
        have hl' := (List.mem_append.1 hl).resolve_right fun hl => by
          have := hlater l hl
          omega
      · exact ⟨e, he, rfl, l, hl', hp, hlt⟩
      · -- what depended on the path is no longer stored
        obtain ⟨⟨e, he⟩, horigin⟩ := hs
        obtain ⟨tr, horigin', -, hsources, -⟩ := (hd.step hwalk (.invalidate p)).stored he
        rw [horigin] at horigin'
        obtain rfl := Option.some.inj horigin'
        refine (((FileCache.find?_invalidate hd.indexed _).1 he).2 ?_).elim
        rw [hsources, ← hp]
        exact List.mem_map_of_mem hl'
    · exact ⟨l, looks_of_underway hd hwalk (.inr ⟨_, h.stores⟩) he hbegan hl, hp, hlt⟩
  · rintro before w after rfl hw
    have hd := hsound before
    rw [run_append] at h
    refine ⟨fun hlt => ?_, fun ⟨e, he, hbegan⟩ => hbegan ▸ hd.began he⟩
    obtain ⟨tr', later, rfl, -, ⟨e, he, rfl⟩ | ⟨⟨e, he⟩, -⟩⟩ :=
      older_cases hd hwalk h.stores (.inl hlt)
    · exact ⟨e, he, rfl⟩
    · exact (((FileCache.find?_clearWorkspace hd.indexed _).1 he).2 hw.symm).elim
  · rintro before after rfl
    have hd := hsound before
    rw [run_append] at h
    refine ⟨fun hlt => ?_, fun ⟨e, he, hbegan⟩ => hbegan ▸ hd.began he⟩
    obtain ⟨tr', later, rfl, -, ⟨e, he, rfl⟩ | ⟨⟨e, he⟩, -⟩⟩ :=
      older_cases hd hwalk h.stores (.inl hlt)
    · exact ⟨e, he, rfl⟩
    · cases he

/-- The root of a file is looked for; after the look at a marker that is not there, the marker is
created and invalidated; the walk goes on, and what it has come to is stored. -/
def markerMissed : List Event :=
  [.begin ⟨"/w"⟩ ⟨"/w/b.js"⟩, .look 0 (.ok false), .look 0 (.ok false),
    .invalidate ⟨"/w/package.json"⟩, .look 0 (.ok false), .settle 0]

/-- What the walk has looked at. -/
def missedTrace : Trace where
  key := .of ⟨"/w"⟩ ⟨"/w/b.js"⟩
  began := 0
  looks := [((⟨"/w/b.js/package.json"⟩ : Path).components, 1),
    ((⟨"/w/package.json"⟩ : Path).components, 2), ((⟨"/package.json"⟩ : Path).components, 4)]

/-- The next lookup is answered that there is no root, from a look at the marker before it was
invalidated. -/
theorem survives_iff_markerMissed :
    (empty.run (Memory.Kind.roots.walk "package.json") markerMissed).Answers ⟨"/w"⟩ ⟨"/w/b.js"⟩ none
        missedTrace ∧
      missedTrace.LookedAt ⟨"/w/package.json"⟩ 3 := by
  have h : (empty.run (Memory.Kind.roots.walk "package.json") markerMissed).Answers ⟨"/w"⟩
      ⟨"/w/b.js"⟩ none missedTrace := ⟨rfl, rfl⟩
  refine ⟨h, ((survives_iff .roots "package.json" markerMissed _ _ _ _ h).1 (markerMissed.take 3)
    ⟨"/w/package.json"⟩ (markerMissed.drop 4) rfl).2 ?_⟩
  exact ⟨_, List.mem_singleton_self _, rfl, _, List.mem_of_getElem? (i := 1) rfl, rfl, by decide⟩

/-- Not every answer is younger than the invalidations before it. -/
theorem not_younger_than_invalidations :
    ¬ ∀ (kind : Memory.Kind) (marker : String) (before after : List Event) (p ws path : Path)
      (v : kind.Value) (tr : Trace),
      (empty.run (kind.walk marker) (before ++ .invalidate p :: after)).Answers ws path v tr →
        ¬ tr.LookedAt p (empty.run (kind.walk marker) before).now := by
  intro h
  refine h .roots "package.json" (markerMissed.take 3) (markerMissed.drop 4) ⟨"/w/package.json"⟩
    ⟨"/w"⟩ ⟨"/w/b.js"⟩ none missedTrace ⟨rfl, rfl⟩ ?_
  exact ⟨_, List.mem_of_getElem? (i := 1) rfl, rfl, by decide⟩

end Desk

end LintPool
