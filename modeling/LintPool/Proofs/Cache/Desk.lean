import Mathlib.Tactic.Common
import LintPool.Cache.Desk
import LintPool.Proofs.Search.Stepwise

set_option autoImplicit false

/-!
# A cache with the lookups that are under way

Everything about lookups that overlap rests on what one event can do, which is said once, as a
relation with a case for each way in which a desk moves on.

## Main definitions

* `LintPool.Desk.Move` — the ways in which a desk moves on.
* `LintPool.Desk.Sound` — what holds at every moment.
* `LintPool.Desk.alone` — a lookup that nothing comes between.

## Main results

* `LintPool.Desk.move_act` — every event is one of the moves.
* `LintPool.Desk.Sound.run` — what holds at every moment of a run.
* `LintPool.Desk.cache_alone_roots`, `LintPool.Desk.cache_alone_loaders` — a lookup that nothing
  comes between leaves the cache as it is left in one piece.
-/

namespace LintPool

namespace Desk

variable {α : Type} {walkOf : Path → Path → Walk α} {d d' : Desk α}

/-! ## Moves -/

/-- The ways in which a desk moves on, the time left aside. -/
inductive Move (walkOf : Path → Path → Walk α) (d : Desk α) : Event → Desk α → Prop where
  | answered (ws path : Path) (v : α) (h : d.cache.get? (.of ws path) = some v) :
    Move walkOf d (.begin ws path) d
  | setOut (ws path : Path) (h : d.cache.get? (.of ws path) = none) :
    Move walkOf d (.begin ws path)
      { d with quests := d.quests ++ [⟨⟨.of ws path, d.now, []⟩, walkOf ws path⟩] }
  | looked (began : Nat) (answer : Except AccessError Bool) :
    Move walkOf d (.look began answer)
      { d with quests := d.quests.map fun e =>
          if e.trace.began = began then e.look d.now answer else e }
  | stored (trace : Trace) (v : α) (probed : List Path)
    (h : ⟨trace, .done (.ok (v, probed))⟩ ∈ d.quests) :
    Move walkOf d (.settle trace.began)
      { d.drop trace.began with
        cache := d.cache.insert trace.key v (probed.map Path.components)
        origins := (trace.key, trace) :: d.origins }
  | failed (began : Nat) : Move walkOf d (.settle began) (d.drop began)
  | idle (began : Nat) : Move walkOf d (.settle began) d
  | abandoned (began : Nat) : Move walkOf d (.abandon began) (d.drop began)
  | invalidated (p : Path) :
    Move walkOf d (.invalidate p) { d with cache := d.cache.invalidate p.components }
  | cleared (ws : Path) :
    Move walkOf d (.clearWorkspace ws) { d with cache := d.cache.clearWorkspace ws.components }
  | clearedAll : Move walkOf d .clear { d with cache := .empty }

/-- Every event is one of the moves. -/
lemma move_act (walkOf : Path → Path → Walk α) (d : Desk α) (ev : Event) :
    Move walkOf d ev (d.act walkOf ev) := by
  cases ev with
  | begin ws path =>
    rw [act, Desk.begin]
    split
    · exact .answered ws path _ ‹_›
    · exact .setOut ws path ‹_›
  | look began answer => exact .looked began answer
  | settle began =>
    rw [act, settle]
    split
    · rename_i trace v probed hquest
      have hbegan : trace.began = began := by simpa using List.find?_some hquest
      exact hbegan ▸ .stored trace v probed (List.mem_of_find?_eq_some hquest)
    · exact .failed began
    · exact .idle began
  | abandon began => exact .abandoned began
  | invalidate p => exact .invalidated p
  | clearWorkspace ws => exact .cleared ws
  | clear => exact .clearedAll

/-! ## What holds at every moment -/

/-- Something is stored under a key that a walk came to. -/
def Stores (d : Desk α) (key : CacheKey) (tr : Trace) : Prop :=
  (∃ e, d.cache.find? key = some e) ∧ d.origin? key = some tr

/-- What holds at every moment of the lookups and the cache. -/
structure Sound (d : Desk α) : Prop where
  /-- The index of the cache is exact. -/
  indexed : d.cache.Indexed
  /-- What is stored under a key came from a walk for it, and depends on what the walk looked at. -/
  stored : ∀ {key e}, d.cache.find? key = some e → ∃ tr, d.origin? key = some tr ∧
    tr.key = key ∧ e.sources = tr.looks.map (·.1) ∧ tr.began < d.now
  /-- A walk under way records what it looks at. -/
  records : ∀ {e}, e ∈ d.quests → e.walk.Records (e.trace.looks.map (·.1))
  /-- A walk under way has begun. -/
  began : ∀ {e}, e ∈ d.quests → e.trace.began < d.now
  /-- A walk under way has made its looks since it began. -/
  since : ∀ {e}, e ∈ d.quests → ∀ l ∈ e.trace.looks, e.trace.began ≤ l.2 ∧ l.2 < d.now
  /-- No two walks under way began at the same moment. -/
  unique : ∀ {e e'}, e ∈ d.quests → e' ∈ d.quests → e.trace.began = e'.trace.began → e = e'
  /-- No walk under way began when one began that has come to something stored. -/
  apart : ∀ {e key tr}, e ∈ d.quests → d.Stores key tr → tr.began ≠ e.trace.began

/-- What is stored has begun. -/
lemma Sound.began_of_stores (h : d.Sound) {key : CacheKey} {tr : Trace} (hs : d.Stores key tr) :
    tr.began < d.now := by
  obtain ⟨⟨e, he⟩, horigin⟩ := hs
  obtain ⟨tr', horigin', -, -, hbegan⟩ := h.stored he
  rw [horigin] at horigin'
  exact Option.some.inj horigin' ▸ hbegan

/-- Less may be stored and less may be under way. -/
lemma Sound.fewer (h : d.Sound) (hindexed : d'.cache.Indexed)
    (hcache : ∀ {key e}, d'.cache.find? key = some e → d.cache.find? key = some e)
    (horigins : d'.origins = d.origins) (hquests : d'.quests ⊆ d.quests)
    (hnow : d'.now = d.now + 1) : d'.Sound where
  indexed := hindexed
  stored he := by
    obtain ⟨tr, horigin, hkey, hsources, hbegan⟩ := h.stored (hcache he)
    refine ⟨tr, ?_, hkey, hsources, by omega⟩
    rwa [origin?, horigins]
  records he := h.records (hquests he)
  began he := by
    have := h.began (hquests he)
    omega
  since he l hl := by
    have := h.since (hquests he) l hl
    omega
  unique he he' := h.unique (hquests he) (hquests he')
  apart he hs := by
    refine h.apart (hquests he) ⟨hs.1.imp fun _ => hcache, ?_⟩
    rw [origin?, ← horigins]
    exact hs.2

/-- A look leaves everything about a walk but what it looked at and what is left of it. -/
lemma look_cases (now : Nat) (answer : Except AccessError Bool) (e : Quest α) :
    e.look now answer = e ∨ ∃ p next, e.walk = .look p next ∧ e.look now answer =
      ⟨{ e.trace with looks := e.trace.looks ++ [(p.components, now)] }, next answer⟩ := by
  unfold Quest.look
  split
  · exact .inr ⟨_, _, ‹_›, rfl⟩
  · exact .inl rfl

/-- A look does not change when a walk began. -/
lemma began_look (now : Nat) (answer : Except AccessError Bool) (e : Quest α) :
    (e.look now answer).trace.began = e.trace.began := by
  obtain h | ⟨p, next, -, h⟩ := look_cases now answer e <;> rw [h]

/-- A walk under way after a look was so before, and may have made it. -/
lemma mem_looked {quests : List (Quest α)} {began now : Nat} {answer : Except AccessError Bool}
    {e : Quest α}
    (h : e ∈ quests.map fun e => if e.trace.began = began then e.look now answer else e) :
    ∃ e' ∈ quests, e.trace.began = e'.trace.began ∧ (e = e' ∨ ∃ p next, e'.walk = .look p next ∧
      e = ⟨{ e'.trace with looks := e'.trace.looks ++ [(p.components, now)] }, next answer⟩) := by
  obtain ⟨e', he', rfl⟩ := List.mem_map.1 h
  refine ⟨e', he', ?_⟩
  split
  · exact ⟨began_look now answer e', look_cases now answer e'⟩
  · exact ⟨rfl, .inl rfl⟩

/-- What holds at every moment holds after a look. -/
lemma Sound.looked (h : d.Sound) (began : Nat) (answer : Except AccessError Bool) :
    Sound { d with
      now := d.now + 1
      quests := d.quests.map fun e =>
        if e.trace.began = began then e.look d.now answer else e } where
  indexed := h.indexed
  stored he := by
    obtain ⟨tr, horigin, hkey, hsources, hbegan⟩ := h.stored he
    exact ⟨tr, horigin, hkey, hsources, Nat.lt_succ_of_lt hbegan⟩
  records he := by
    obtain ⟨e', he', -, rfl | ⟨p, next, hwalk, rfl⟩⟩ := mem_looked he
    · exact h.records he'
    · have hrecords := h.records he'
      rw [hwalk] at hrecords
      simpa using hrecords answer
  began he := by
    obtain ⟨e', he', hbegan, -⟩ := mem_looked he
    rw [hbegan]
    exact Nat.lt_succ_of_lt (h.began he')
  since he l hl := by
    obtain ⟨e', he', hbegan, rfl | ⟨p, next, -, rfl⟩⟩ := mem_looked he
    · exact ⟨(h.since he' l hl).1, Nat.lt_succ_of_lt (h.since he' l hl).2⟩
    · obtain hl | hl := List.mem_append.1 hl
      · exact ⟨(h.since he' l hl).1, Nat.lt_succ_of_lt (h.since he' l hl).2⟩
      · obtain rfl := List.mem_singleton.1 hl
        have hlt := h.began he'
        exact ⟨Nat.le_of_lt hlt, Nat.lt_succ_self _⟩
  unique he he' hbegan := by
    obtain ⟨e₁, he₁, rfl⟩ := List.mem_map.1 he
    obtain ⟨e₂, he₂, rfl⟩ := List.mem_map.1 he'
    have heq : e₁ = e₂ := by
      refine h.unique he₁ he₂ ?_
      have hsame : ∀ e : Quest α,
          (if e.trace.began = began then e.look d.now answer else e).trace.began =
            e.trace.began := by
        intro e
        split
        · exact began_look _ _ e
        · rfl
      rwa [hsame, hsame] at hbegan
    rw [heq]
  apart he hs := by
    obtain ⟨e', he', hbegan, -⟩ := mem_looked he
    rw [hbegan]
    exact h.apart he' hs

/-- What holds at every moment holds when a lookup sets out. -/
lemma Sound.setOut (h : d.Sound) (key : CacheKey) {walk : Walk α} (hwalk : walk.Records []) :
    Sound { d with now := d.now + 1, quests := d.quests ++ [⟨⟨key, d.now, []⟩, walk⟩] } where
  indexed := h.indexed
  stored he := by
    obtain ⟨tr, horigin, hkey, hsources, hbegan⟩ := h.stored he
    exact ⟨tr, horigin, hkey, hsources, Nat.lt_succ_of_lt hbegan⟩
  records he := by
    obtain he | he := List.mem_append.1 he
    · exact h.records he
    · obtain rfl := List.mem_singleton.1 he
      exact hwalk
  began he := by
    obtain he | he := List.mem_append.1 he
    · exact Nat.lt_succ_of_lt (h.began he)
    · obtain rfl := List.mem_singleton.1 he
      exact Nat.lt_succ_self _
  since he l hl := by
    obtain he | he := List.mem_append.1 he
    · exact ⟨(h.since he l hl).1, Nat.lt_succ_of_lt (h.since he l hl).2⟩
    · obtain rfl := List.mem_singleton.1 he
      cases hl
  unique {e e'} he he' hbegan := by
    obtain he | he := List.mem_append.1 he <;> obtain he' | he' := List.mem_append.1 he'
    · exact h.unique he he' hbegan
    · rw [List.mem_singleton.1 he'] at hbegan
      exact absurd hbegan (Nat.ne_of_lt (h.began he))
    · rw [List.mem_singleton.1 he] at hbegan
      exact absurd hbegan.symm (Nat.ne_of_lt (h.began he'))
    · rw [List.mem_singleton.1 he, List.mem_singleton.1 he']
  apart he hs := by
    obtain he | he := List.mem_append.1 he
    · exact h.apart he hs
    · obtain rfl := List.mem_singleton.1 he
      exact Nat.ne_of_lt (h.began_of_stores hs)

/-- What is stored once a walk has settled is what it came to, or was stored before. -/
lemma stores_settled {trace tr : Trace} {key : CacheKey} {v : α} {probed : List Path}
    {quests : List (Quest α)} {now : Nat}
    (h : Stores ⟨now, d.cache.insert trace.key v (probed.map Path.components),
      (trace.key, trace) :: d.origins, quests⟩ key tr) :
    key = trace.key ∧ tr = trace ∨ key ≠ trace.key ∧ d.Stores key tr := by
  obtain ⟨⟨e, he⟩, horigin⟩ := h
  dsimp only at he
  rw [FileCache.find?_insert] at he
  by_cases hkey : trace.key = key
  · subst hkey
    exact .inl ⟨rfl, by simpa [origin?, eq_comm] using horigin⟩
  · refine .inr ⟨fun heq => hkey heq.symm, ⟨e, ?_⟩, by simpa [origin?, hkey] using horigin⟩
    rwa [if_neg fun heq => hkey heq.symm] at he

/-- What holds at every moment holds when a walk has settled. -/
lemma Sound.settled (h : d.Sound) {trace : Trace} {v : α} {probed : List Path}
    (hquest : ⟨trace, .done (.ok (v, probed))⟩ ∈ d.quests) :
    Sound ⟨d.now + 1, d.cache.insert trace.key v (probed.map Path.components),
      (trace.key, trace) :: d.origins, (d.drop trace.began).quests⟩ where
  indexed := h.indexed.insert _ _ _
  stored {key e} he := by
    dsimp only at he
    rw [FileCache.find?_insert] at he
    by_cases hkey : trace.key = key
    · subst hkey
      rw [if_pos rfl] at he
      cases he
      exact ⟨trace, by simp [origin?], rfl, h.records hquest, Nat.lt_succ_of_lt (h.began hquest)⟩
    · rw [if_neg fun heq => hkey heq.symm] at he
      obtain ⟨tr, horigin, htr, hsources, hbegan⟩ := h.stored he
      refine ⟨tr, ?_, htr, hsources, Nat.lt_succ_of_lt hbegan⟩
      simpa [origin?, hkey] using horigin
  records he := h.records (List.mem_filter.1 he).1
  began he := Nat.lt_succ_of_lt (h.began (List.mem_filter.1 he).1)
  since he l hl :=
    have hsince := h.since (List.mem_filter.1 he).1 l hl
    ⟨hsince.1, Nat.lt_succ_of_lt hsince.2⟩
  unique he he' := h.unique (List.mem_filter.1 he).1 (List.mem_filter.1 he').1
  apart he hs := by
    obtain ⟨hmem, hne⟩ := List.mem_filter.1 he
    obtain ⟨-, rfl⟩ | ⟨-, hs⟩ := stores_settled hs
    · exact fun heq => by simp [heq] at hne
    · exact h.apart hmem hs

/-- **What holds at every moment** holds after every event. -/
lemma Sound.step (h : d.Sound) (hwalk : ∀ ws path, (walkOf ws path).Records []) (ev : Event) :
    (d.step walkOf ev).Sound := by
  have hmove := move_act walkOf d ev
  unfold Desk.step
  generalize d.act walkOf ev = d' at hmove
  cases hmove with
  | answered => exact h.fewer h.indexed id rfl (List.Subset.refl _) rfl
  | setOut ws path => exact h.setOut _ (hwalk ws path)
  | looked began answer => exact h.looked began answer
  | stored trace v probed hquest => exact h.settled hquest
  | failed | abandoned => exact h.fewer h.indexed id rfl (List.filter_subset_self _) rfl
  | idle => exact h.fewer h.indexed id rfl (List.Subset.refl _) rfl
  | invalidated p =>
    refine h.fewer (h.indexed.invalidate _) (fun he => ?_) rfl (List.Subset.refl _) rfl
    exact ((FileCache.find?_invalidate h.indexed _).1 he).1
  | cleared ws =>
    refine h.fewer (h.indexed.clearWorkspace _) (fun he => ?_) rfl (List.Subset.refl _) rfl
    exact ((FileCache.find?_clearWorkspace h.indexed _).1 he).1
  | clearedAll => exact h.fewer .empty (fun he => by cases he) rfl (List.Subset.refl _) rfl

/-- What holds at every moment holds at the start. -/
lemma Sound.empty : (empty : Desk α).Sound where
  indexed := .empty
  stored he := by cases he
  records he := by cases he
  began he := by cases he
  since he := by cases he
  unique he := by cases he
  apart he := by cases he

/-- What holds at every moment holds in every run. -/
lemma Sound.run (h : d.Sound) (hwalk : ∀ ws path, (walkOf ws path).Records []) (es : List Event) :
    (d.run walkOf es).Sound := by
  induction es generalizing d with
  | nil => exact h
  | cons e es ih => exact ih (h.step hwalk e)

/-! ## A lookup that nothing comes between -/

/-- What comes about while a walk takes its course in a tree that stays as it is. -/
def walkAlone (looks : Probe) (began : Nat) : Walk α → List Event
  | .done _ => [.settle began]
  | .look p next => .look began (looks p) :: walkAlone looks began (next (looks p))

/-- What comes about when a lookup is made that nothing comes between. -/
def alone (walkOf : Path → Path → Walk α) (looks : Probe) (d : Desk α) (ws path : Path) :
    List Event :=
  match d.cache.get? (.of ws path) with
  | some _ => [.begin ws path]
  | none => .begin ws path :: walkAlone looks d.now (walkOf ws path)

/-- A walk that nothing comes between stores what it comes to.

**Proof sketch.** Induction on the walk: a look leaves the other walks as they are, and the last
event finds this one, no other having begun at its moment. -/
lemma cache_walkAlone (looks : Probe) {quests : List (Quest α)} {trace : Trace}
    (hother : ∀ e ∈ quests, e.trace.began ≠ trace.began) {walk : Walk α}
    (hd : d.quests = quests ++ [⟨trace, walk⟩]) :
    (d.run walkOf (walkAlone looks trace.began walk)).cache =
      match walk.run looks with
      | .error _ => d.cache
      | .ok (v, probed) => d.cache.insert trace.key v (probed.map Path.components) := by
  induction walk generalizing d trace with
  | done result =>
    have hquest : d.quest? trace.began = some ⟨trace, .done result⟩ := by
      have hnone : quests.find? (·.trace.began = trace.began) = none :=
        List.find?_eq_none.2 fun e he => by simpa using hother e he
      rw [quest?, hd, List.find?_append, hnone]
      simp
    rw [walkAlone, Desk.run, List.foldl_cons, List.foldl_nil, Desk.step, act, settle, hquest,
      Walk.run]
    rcases result with e | ⟨v, probed⟩ <;> rfl
  | look p next ih =>
    rw [walkAlone, Walk.run, Desk.run, List.foldl_cons]
    have hlook : (d.step walkOf (.look trace.began (looks p))).quests = quests ++
        [⟨{ trace with looks := trace.looks ++ [(p.components, d.now)] }, next (looks p)⟩] := by
      have hmap : quests.map (fun e =>
          if e.trace.began = trace.began then e.look d.now (looks p) else e) = quests :=
        (List.map_congr_left fun e he => if_neg (hother e he)).trans (List.map_id' quests)
      rw [Desk.step, act, hd, List.map_append, hmap, List.map_singleton, if_pos rfl]
      rfl
    have hafter := ih (looks p) (by exact hother) hlook
    exact hafter

/-- A lookup that nothing comes between recalls what is stored, or searches and stores. -/
lemma cache_alone (h : d.Sound) (walkOf : Path → Path → Walk α) (looks : Probe) (ws path : Path) :
    (d.run walkOf (d.alone walkOf looks ws path)).cache =
      (d.cache.recollect (fun looks ws path => (walkOf ws path).run looks) looks ws path).2 := by
  unfold alone FileCache.recollect
  rcases hget : d.cache.get? (.of ws path) with _ | v
  · have hbegin : d.begin walkOf ws path =
        { d with quests := d.quests ++ [⟨⟨.of ws path, d.now, []⟩, walkOf ws path⟩] } := by
      rw [Desk.begin, hget]
    dsimp only
    rw [Desk.run, List.foldl_cons, Desk.step, act, hbegin]
    have hother : ∀ e ∈ d.quests, e.trace.began ≠ (Trace.mk (.of ws path) d.now []).began :=
      fun e he => Nat.ne_of_lt (h.began he)
    refine (cache_walkAlone looks hother rfl).trans ?_
    rcases (walkOf ws path).run looks with e | ⟨v, probed⟩ <;> rfl
  · dsimp only
    rw [Desk.run, List.foldl_cons, List.foldl_nil, Desk.step, act, Desk.begin, hget]

/-- **The root of a path**, looked up with nothing in between, leaves the cache as it is left when
the root is found in one piece. -/
theorem cache_alone_roots {d : Desk (Option Path)} (h : d.Sound) (r : PackageRoots)
    (hd : d.cache = r.cache) (looks : Probe) (ws path : Path) :
    (d.run (rootWalk r.marker) (d.alone (rootWalk r.marker) looks ws path)).cache =
      (r.find looks ws path).2.cache := by
  rw [cache_alone h, PackageRoots.find_eq, hd]
  simp only [run_rootWalk]

/-- **The configuration of a path**, looked up with nothing in between, leaves the cache as it is
left when the configuration is found in one piece. -/
theorem cache_alone_loaders {d : Desk (Option PnpConfiguration)} (h : d.Sound) (l : PnpLoaders)
    (hd : d.cache = l.cache) (looks : Probe) (ws path : Path) :
    (d.run loaderWalk (d.alone loaderWalk looks ws path)).cache =
      (l.find looks ws path).2.cache := by
  rw [cache_alone h, PnpLoaders.find_eq, hd]
  simp only [run_loaderWalk]

end Desk

end LintPool
