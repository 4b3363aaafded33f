import LintPool.Search.Stepwise

set_option autoImplicit false

/-!
# Lookups that overlap

Many lookups may be under way at once. A lookup first looks into the cache; if nothing is there, it
sets out on a walk, and stores what the walk comes to when it is over. In the meantime other lookups
go on, paths are invalidated and the cache is cleared. Nothing but the cache is shared.

To say later what an answer was computed from, every walk is traced: the moment at which it began,
and the moment of each of its looks.

## Main definitions

* `LintPool.Trace` — where an answer comes from.
* `LintPool.Quest` — a lookup under way.
* `LintPool.Desk` — a cache with the lookups that are under way.
* `LintPool.Desk.Event`, `LintPool.Desk.step` — what comes about, and what it does.
-/

namespace LintPool

/-- Where an answer comes from: what was asked, when its walk began, and what it looked at, when. -/
structure Trace where
  /-- What was asked. -/
  key : CacheKey
  /-- When the walk began. -/
  began : Nat
  /-- What it looked at, and when, in order. -/
  looks : List (Location × Nat)
  deriving Repr, DecidableEq

/-- A lookup under way: it found nothing in the cache and has set out on a walk. -/
structure Quest (α : Type) where
  /-- Where its answer will come from. -/
  trace : Trace
  /-- What is left of its walk. -/
  walk : Walk α

/-- The next look of a lookup under way, if there is one. -/
def Quest.look {α : Type} (now : Nat) (answer : Except AccessError Bool) (e : Quest α) :
    Quest α :=
  match e.walk with
  | .look p next => ⟨{ e.trace with looks := e.trace.looks ++ [(p.components, now)] }, next answer⟩
  | .done _ => e

/-- A cache with the lookups that are under way. A moment is the number of events before it. -/
structure Desk (α : Type) where
  /-- The moment. -/
  now : Nat
  /-- What is stored. -/
  cache : FileCache α
  /-- Where what was stored came from, latest first. -/
  origins : List (CacheKey × Trace)
  /-- The lookups under way. -/
  quests : List (Quest α)

namespace Desk

variable {α : Type}

/-- What comes about. A lookup under way is known by the moment at which it began. -/
inductive Event where
  /-- A lookup starts. -/
  | begin (ws path : Path)
  /-- The next look of a lookup is made, and this is what it says. -/
  | look (began : Nat) (answer : Except AccessError Bool)
  /-- A lookup whose walk is over stores what it has come to. -/
  | settle (began : Nat)
  /-- A lookup is given up. -/
  | abandon (began : Nat)
  /-- A path is invalidated. -/
  | invalidate (p : Path)
  /-- A workspace folder is cleared. -/
  | clearWorkspace (ws : Path)
  /-- Everything is cleared. -/
  | clear
  deriving Repr

/-- Nothing is stored and nothing is under way. -/
def empty : Desk α := ⟨0, .empty, [], []⟩

/-- Where what is stored under a key came from. -/
def origin? (d : Desk α) (key : CacheKey) : Option Trace :=
  (d.origins.find? (·.1 = key)).map (·.2)

/-- The lookup that began at a moment. -/
def quest? (d : Desk α) (began : Nat) : Option (Quest α) :=
  d.quests.find? (·.trace.began = began)

/-- A lookup starts: it is answered from the cache, or sets out on a walk. -/
def begin (walkOf : Path → Path → Walk α) (d : Desk α) (ws path : Path) : Desk α :=
  match d.cache.get? (.of ws path) with
  | some _ => d
  | none => { d with quests := d.quests ++ [⟨⟨.of ws path, d.now, []⟩, walkOf ws path⟩] }

/-- A lookup is no longer under way. -/
def drop (d : Desk α) (began : Nat) : Desk α :=
  { d with quests := d.quests.filter (·.trace.began ≠ began) }

/-- A lookup whose walk is over stores what it has come to, if it did not fail. -/
def settle (d : Desk α) (began : Nat) : Desk α :=
  match d.quest? began with
  | some ⟨trace, .done (.ok (v, probed))⟩ =>
    { d.drop began with
      cache := d.cache.insert trace.key v (probed.map Path.components)
      origins := (trace.key, trace) :: d.origins }
  | some ⟨_, .done (.error _)⟩ => d.drop began
  | _ => d

/-- What an event does, the time left aside. -/
def act (walkOf : Path → Path → Walk α) (d : Desk α) : Event → Desk α
  | .begin ws path => d.begin walkOf ws path
  | .look began answer =>
    { d with quests := d.quests.map fun e =>
        if e.trace.began = began then e.look d.now answer else e }
  | .settle began => d.settle began
  | .abandon began => d.drop began
  | .invalidate p => { d with cache := d.cache.invalidate p.components }
  | .clearWorkspace ws => { d with cache := d.cache.clearWorkspace ws.components }
  | .clear => { d with cache := .empty }

/-- What an event does. -/
def step (walkOf : Path → Path → Walk α) (d : Desk α) (e : Event) : Desk α :=
  { d.act walkOf e with now := d.now + 1 }

/-- What several events do. -/
def run (walkOf : Path → Path → Walk α) (d : Desk α) (es : List Event) : Desk α :=
  es.foldl (step walkOf) d

end Desk

end LintPool
