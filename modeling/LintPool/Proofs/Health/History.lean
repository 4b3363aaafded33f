import Mathlib.Tactic.Common
import LintPool.Health.Basic

set_option autoImplicit false

/-!
# Histories of health

The health of a root changes when a call asks to be let through, when a crash or a success is
recorded, and when activity gives the root another chance. A history lists these happenings in
order, with the verdict on each call. While a suppression stands, calls are turned away quietly up
to its end, and crashes do not prolong it; the next notification takes a crash, and something that
ended the suppression.

## Main definitions

* `LintPool.Happening` — what changes the health of a root.
* `LintPool.Health.replay` — the health after a history.
* `LintPool.Health.Explains` — the verdicts of a history are those of the policy.
* `LintPool.Happening.Lifts` — what may end a suppression.
* `LintPool.Health.Below` — so few crashes stand against a root that calls are let through.

## Main results

* `LintPool.Health.replay_suppressed` — a suppression stands until something lifts it.
* `LintPool.Health.replay_below` — without a crash the count stays below the threshold.
* `LintPool.Health.notify_again` — what lies between two notifications.
* `LintPool.Health.verdict_of_suppressed` — the verdict on a call during a suppression.
-/

namespace LintPool

/-- What changes the health of a root. -/
inductive Happening where
  /-- A call for a root asks to be let through, and gets a verdict. -/
  | call (root : Path) (now : Instant) (verdict : Except WorkerError Unit)
  /-- A crash is recorded. -/
  | crash
  /-- A success is recorded. -/
  | success
  /-- Activity makes a root healthy that was not. -/
  | reset
  deriving Repr, DecidableEq

namespace Happening

/-- What may end a suppression: a success, a reset, or an admission at or after its end. -/
def Lifts (expiry : Instant) : Happening → Prop
  | .success | .reset => True
  | .call _ now (.ok ()) => expiry.nanos ≤ now.nanos
  | _ => False

/-- The health of a root after a happening. -/
def after (policy : CrashPolicy) (h : Health) : Happening → Health
  | .call root now _ => (h.consider policy root now).2
  | .crash => h.recordCrash
  | .success | .reset => h.recordSuccess

end Happening

namespace Health

variable {policy : CrashPolicy}

/-! ## Histories -/

/-- The health of a root after a history. -/
def replay (policy : CrashPolicy) (h : Health) (xs : List Happening) : Health :=
  xs.foldl (Happening.after policy) h

/-- The verdicts of a history are those of the policy on the health at the time. -/
def Explains (policy : CrashPolicy) (h : Health) : List Happening → Prop
  | [] => True
  | x :: xs =>
    (∀ root now verdict, x = .call root now verdict → verdict = (h.consider policy root now).1) ∧
      Explains policy (x.after policy h) xs

/-- A history in two parts. -/
lemma replay_append (policy : CrashPolicy) (h : Health) (xs ys : List Happening) :
    h.replay policy (xs ++ ys) = (h.replay policy xs).replay policy ys :=
  List.foldl_append

/-- The verdicts of a history in two parts. -/
lemma explains_append (h : Health) (xs ys : List Happening) :
    h.Explains policy (xs ++ ys) ↔
      h.Explains policy xs ∧ (h.replay policy xs).Explains policy ys := by
  induction xs generalizing h with
  | nil => simp [Explains, replay]
  | cons x xs ih =>
    rw [List.cons_append, Explains, Explains, ih, and_assoc]
    rfl

/-! ## During a suppression -/

/-- The verdict on a call during a suppression: it is turned away quietly before the end, and let
through from then on. -/
lemma consider_suppressed {h : Health} {expiry : Instant} (hs : h.standing = .suppressed expiry)
    (root : Path) (now : Instant) :
    (h.consider policy root now).1 =
      if now.nanos < expiry.nanos then .error (.unavailable root (expiry.since now) false)
      else .ok () := by
  unfold consider
  rw [hs]
  dsimp only
  split <;> rfl

/-- **A suppression stands until something lifts it**: crashes do not touch it, and neither do calls
that are turned away. -/
lemma replay_suppressed {h : Health} {expiry : Instant} (hs : h.standing = .suppressed expiry)
    {xs : List Happening} (hx : h.Explains policy xs) (hlift : ∀ x ∈ xs, ¬ x.Lifts expiry) :
    (h.replay policy xs).standing = .suppressed expiry := by
  induction xs generalizing h with
  | nil => exact hs
  | cons x xs ih =>
    obtain ⟨hverdict, hrest⟩ := hx
    refine ih ?_ hrest fun y hy => hlift y (List.mem_cons_of_mem _ hy)
    have hno := hlift x List.mem_cons_self
    cases x with
    | call root now verdict =>
      have hv := (hverdict root now verdict rfl).trans (consider_suppressed hs root now)
      simp only [Happening.after, consider, hs]
      split at hv
      · rename_i hlt
        rw [if_pos hlt]
        exact hs
      · rename_i hge
        rw [hv] at hno
        exact absurd (Nat.le_of_not_lt hge) hno
    | crash =>
      simp only [Happening.after, recordCrash, hs]
    | success => exact absurd trivial hno
    | reset => exact absurd trivial hno

/-! ## Below the threshold -/

/-- So few crashes stand against a root that calls are let through, unless it is suppressed. -/
def Below (policy : CrashPolicy) (h : Health) : Prop :=
  ∀ crashes, h.standing = .degraded crashes → crashes < policy.threshold

/-- **Without a crash the count stays below the threshold**: the call that is let through after a
suppression leaves it one below. -/
lemma replay_below (hpos : 0 < policy.threshold) {h : Health} (hb : h.Below policy)
    {xs : List Happening} (hcrash : Happening.crash ∉ xs) : (h.replay policy xs).Below policy := by
  induction xs generalizing h with
  | nil => exact hb
  | cons x xs ih =>
    refine ih ?_ fun hmem => hcrash (List.mem_cons_of_mem _ hmem)
    intro crashes hc
    cases x with
    | call root now verdict =>
      rcases hs : h.standing with _ | k | expiry
      · simp [Happening.after, consider, hs] at hc
      · have hk := hb k hs
        simp only [Happening.after, consider, hs, if_pos hk, Standing.degraded.injEq] at hc
        omega
      · simp only [Happening.after, consider, hs] at hc
        split at hc
        · rw [hs] at hc
          cases hc
        · simp only [afterCrashes] at hc
          split at hc <;> cases hc
          omega
    | crash => exact absurd List.mem_cons_self hcrash
    | success => cases hc
    | reset => cases hc

/-! ## Notifications -/

/-- A call that is turned away with a notification finds the root at the threshold, and starts a
suppression of the window it reports. -/
lemma consider_notify {h : Health} {root about : Path} {now : Instant} {window : Span}
    (hv : (h.consider policy root now).1 = .error (.unavailable about window true)) :
    ¬ h.Below policy ∧ (∀ expiry, h.standing ≠ .suppressed expiry) ∧
      (h.consider policy root now).2.standing = .suppressed (expiryOf now window) := by
  rcases hs : h.standing with _ | crashes | expiry
  · simp [consider, hs] at hv
  · by_cases hlt : crashes < policy.threshold
    · simp [consider, hs, hlt] at hv
    · simp only [consider, hs, if_neg hlt, Except.error.injEq,
        WorkerError.unavailable.injEq] at hv ⊢
      obtain ⟨-, rfl, -⟩ := hv
      exact ⟨fun hb => hlt (hb crashes hs), by simp, rfl⟩
  · rw [consider_suppressed hs] at hv
    split at hv <;> cases hv

/-- **Between two notifications** there is a crash, and something that lifts the suppression which
the first of them started. -/
theorem notify_again (hpos : 0 < policy.threshold) {h : Health} {xs ys : List Happening}
    {root₀ root₁ about₀ about₁ : Path} {t₀ t₁ : Instant} {w₀ w₁ : Span}
    (hx : h.Explains policy (.call root₀ t₀ (.error (.unavailable about₀ w₀ true)) :: xs ++
      .call root₁ t₁ (.error (.unavailable about₁ w₁ true)) :: ys)) :
    Happening.crash ∈ xs ∧ ∃ x ∈ xs, x.Lifts (expiryOf t₀ w₀) := by
  obtain ⟨hfirst, hrest⟩ := hx
  obtain ⟨hmid, hsecond, -⟩ := (explains_append _ xs _).1 hrest
  obtain ⟨-, -, hsupp⟩ := consider_notify (hfirst root₀ t₀ _ rfl).symm
  obtain ⟨habove, hnone, -⟩ := consider_notify (hsecond root₁ t₁ _ rfl).symm
  constructor
  · by_contra hcrash
    refine habove (replay_below hpos (fun crashes hc => ?_) hcrash)
    exact absurd (hsupp.symm.trans hc) (by simp)
  · by_contra hlift
    refine hnone _ (replay_suppressed hsupp hmid fun x hxs hl => hlift ⟨x, hxs, hl⟩)

/-- **The verdict on a call during a suppression**: whatever crashes and calls that were turned away
lie in between, it is turned away quietly before the end, for the time that is left, and let through
from then on. -/
theorem verdict_of_suppressed {h : Health} {xs ys : List Happening} {root₀ root about₀ : Path}
    {t₀ t : Instant} {w₀ : Span} {verdict : Except WorkerError Unit}
    (hx : h.Explains policy (.call root₀ t₀ (.error (.unavailable about₀ w₀ true)) :: xs ++
      .call root t verdict :: ys))
    (hlift : ∀ x ∈ xs, ¬ x.Lifts (expiryOf t₀ w₀)) :
    verdict = if t.nanos < (expiryOf t₀ w₀).nanos then
      .error (.unavailable root ((expiryOf t₀ w₀).since t) false) else .ok () := by
  obtain ⟨hfirst, hrest⟩ := hx
  obtain ⟨hmid, hsecond, -⟩ := (explains_append _ xs _).1 hrest
  obtain ⟨-, -, hsupp⟩ := consider_notify (hfirst root₀ t₀ _ rfl).symm
  rw [hsecond root t _ rfl]
  exact consider_suppressed (replay_suppressed hsupp hmid hlift) root t

end Health

end LintPool
