import Mathlib.Tactic.Common
import LintPool.Proofs.Cache.Recall
import LintPool.Search.Stepwise

set_option autoImplicit false

/-!
# A search look by look is the search

In a tree that stays as it is, a search look by look comes to what the search comes to. Whatever the
looks say, what it records in the end is what it has looked at.

## Main definitions

* `LintPool.Walk.Records` — a walk records what it looks at.

## Main results

* `LintPool.run_rootWalk`, `LintPool.run_loaderWalk` — a walk in a tree that stays as it is.
* `LintPool.records_rootWalk`, `LintPool.records_loaderWalk` — the walks record what they look at.
-/

namespace LintPool

variable {α : Type}

/-! ## In a tree that stays as it is -/

/-- A walk along some paths comes to what the search along them comes to, and goes on from there. -/
lemma run_walkAlong (looks : Probe) (onward : UpwardSearch → Walk α) (ps : List Path) :
    (walkAlong onward ps).run looks =
      match searchAlong looks ps with
      | .error e => .error e
      | .ok s => (onward s).run looks := by
  induction ps generalizing onward with
  | nil => rfl
  | cons p rest ih =>
    rw [walkAlong, searchAlong, Walk.run]
    rcases looks p with e | _ | _
    · rfl
    · dsimp only
      rw [ih]
      rcases searchAlong looks rest with e | s <;> rfl
    · rfl

/-- The walk for a root comes to what the search comes to. -/
lemma run_rootWalk (marker : String) (looks : Probe) (ws path : Path) :
    (rootWalk marker ws path).run looks = rootSearch marker looks ws path := by
  rw [rootWalk, run_walkAlong, rootSearch, findPackageRoot, findUpward]
  rcases searchAlong looks (candidates path [marker]) with e | s <;> rfl

/-- The walk for a configuration comes to what the search comes to. -/
lemma run_loaderWalk (looks : Probe) (ws path : Path) :
    (loaderWalk ws path).run looks = loaderSearch looks ws path := by
  rw [loaderWalk, run_walkAlong, loaderSearch, findPnp, findUpward]
  rcases searchAlong looks (candidates path registerNames) with e | ⟨_ | register, probed⟩
  · rfl
  · rfl
  · dsimp only
    rw [loaderOnward, Walk.run]
    rcases looks (register.sibling loaderName) with e | there <;> rfl

/-! ## What is recorded -/

/-- A walk that has looked at some paths records these, and those that it looks at from now on. -/
def Walk.Records : List Location → Walk α → Prop
  | sofar, .done (.ok (_, probed)) => probed.map Path.components = sofar
  | _, .done (.error _) => True
  | sofar, .look p next => ∀ answer, Records (sofar ++ [p.components]) (next answer)

/-- A walk along some paths records them, if what follows records what it is given. -/
lemma records_walkAlong {sofar : List Location} {onward : UpwardSearch → Walk α}
    (h : ∀ s, (onward s).Records (sofar ++ s.probed.map Path.components)) (ps : List Path) :
    (walkAlong onward ps).Records sofar := by
  induction ps generalizing sofar onward with
  | nil => simpa [walkAlong] using h ⟨none, []⟩
  | cons p rest ih =>
    rw [walkAlong, Walk.Records]
    rintro (e | _ | _)
    · trivial
    · exact ih fun s => by simpa using h { s with probed := p :: s.probed }
    · exact h ⟨some p, [p]⟩

/-- The walk for a root records what it looks at. -/
lemma records_rootWalk (marker : String) (ws path : Path) :
    (rootWalk marker ws path).Records [] :=
  records_walkAlong (fun s => by simp [Walk.Records]) _

/-- The walk for a configuration records what it looks at. -/
lemma records_loaderWalk (ws path : Path) : (loaderWalk ws path).Records [] := by
  refine records_walkAlong (fun s => ?_) _
  obtain ⟨_ | register, probed⟩ := s
  · simp [loaderOnward, Walk.Records]
  · rw [loaderOnward, Walk.Records]
    rintro (e | there)
    · trivial
    · simp [Walk.Records]

end LintPool
