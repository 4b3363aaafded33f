import Mathlib.Data.List.Induction
import LintPool.Proofs.Session.Pending

set_option autoImplicit false

/-!
# The numbers of requests

Numbers come from one counter, for the requests of callers and for the request to shut down alike.
In a run the numbers that are given out follow one another without a gap, so no two are the same,
and every number in the session is one of them.

## Main definitions

* `LintPool.Session.issued?`, `LintPool.Session.issued` — the numbers that are given out at a moment
  and in a run.

## Main results

* `LintPool.Session.issued_eq_range'` — they follow one another.
* `LintPool.Session.known_run` — the numbers in the session are among them.
* `LintPool.Session.request_run` — what each moment keeps of the request of a number, every run
  keeps.
-/

namespace LintPool.Session

variable {s : Session} {m : Moment}

/-! ## Numbers that are given out -/

/-- The number that is given out at a moment: to a request that begins, or to the request to shut
down. -/
def issued? (s : Session) (m : Moment) : Option Nat :=
  match m.event with
  | .begin task params => (s.begin task params m.now).1.toOption
  | .stopping =>
    let before := s.stopping.bind (·.id)
    let after := (s.step m.now .stopping).stopping.bind (·.id)
    if after = before then none else after
  | _ => none

/-- The numbers that are given out in a run. -/
def issued (s : Session) : List Moment → List Nat
  | [] => []
  | m :: ms => (s.issued? m).toList ++ (s.step m.now m.event).issued ms

/-- The numbers that are given out in a run and one more moment. -/
lemma issued_concat (s : Session) (ms : List Moment) (m : Moment) :
    s.issued (ms ++ [m]) = s.issued ms ++ ((s.run ms).issued? m).toList := by
  induction ms generalizing s with
  | nil => simp [issued, run]
  | cons m' ms ih =>
    simp only [List.cons_append, issued, ih, List.append_assoc]
    rfl

/-- A request that begins gets the counter's next number. -/
lemma begin_cases (s : Session) (task : Task) (params : Json) (now : Instant) :
    (s.begin task params now).1.toOption = none ∧ (s.begin task params now).2.nextId = s.nextId ∨
      (s.begin task params now).1.toOption = some s.nextId ∧
        (s.begin task params now).2.nextId = s.nextId + 1 := by
  unfold Session.begin
  split
  · exact .inl ⟨rfl, rfl⟩
  · exact .inr ⟨rfl, rfl⟩

/-- The request to shut down gets the counter's next number. -/
lemma stopping_cases (hs : s.ledger.Sound) (now : Instant) :
    s.issued? ⟨now, .stopping⟩ = none ∧ (s.step now .stopping).nextId = s.nextId ∨
      s.issued? ⟨now, .stopping⟩ = some s.nextId ∧
        (s.step now .stopping).nextId = s.nextId + 1 := by
  have hmove := move_step s now .stopping
  have hnextId : (s.step now .stopping).nextId = (s.step now .stopping).ledger.nextId := rfl
  have hstopping : (s.step now .stopping).stopping = (s.step now .stopping).ledger.stopping := rfl
  simp only [issued?, hnextId, hstopping]
  generalize (s.step now .stopping).ledger = l at hmove
  cases hmove with
  | disposed _ he _ _ => rcases he with he | he <;> cases he
  | stopped t t' ht hturn =>
    simp only [ht, Option.bind_some]
    rcases hturn.id_or with ⟨hsame, hnext⟩ | ⟨hnew, hnext⟩
    · exact .inl ⟨if_pos hsame, hnext⟩
    · have hne : t'.id ≠ t.id := by
        intro hsame
        have hlt := (hs.shutdown t s.nextId ht (hsame.symm.trans hnew)).1
        exact Nat.lt_irrefl _ hlt
      exact .inr ⟨(if_neg hne).trans hnew, hnext⟩
  | aside _ _ => exact .inl ⟨by simp [ledger], rfl⟩

/-- Only requests that begin and the stopping move the counter. -/
lemma Move.nextId_eq {now : Instant} {e : Event} {l : Ledger} (h : Move s now e l)
    (hbegin : ∀ task params, e ≠ .begin task params) (hstopping : e ≠ .stopping) :
    l.nextId = s.nextId := by
  cases h with
  | begun task params _ => exact absurd rfl (hbegin task params)
  | stopped _ _ _ _ => exact absurd rfl hstopping
  | _ => rfl

/-- At a moment no number is given out, or the counter's next one. -/
lemma issued?_cases (hs : s.ledger.Sound) (m : Moment) :
    s.issued? m = none ∧ (s.step m.now m.event).nextId = s.nextId ∨
      s.issued? m = some s.nextId ∧ (s.step m.now m.event).nextId = s.nextId + 1 := by
  obtain ⟨now, e⟩ := m
  cases e with
  | begin task params => exact begin_cases s task params now
  | stopping => exact stopping_cases hs now
  | _ => exact .inl ⟨rfl, (move_step s now _).nextId_eq (by simp) (by simp)⟩

/-- **The numbers that are given out follow one another without a gap.** -/
theorem issued_eq_range' (hs : s.ledger.Sound) (ms : List Moment) :
    s.issued ms = List.range' s.nextId (s.issued ms).length := by
  induction ms generalizing s with
  | nil => rfl
  | cons m ms ih =>
    have hrest := ih (hs.move (move_step s m.now m.event))
    rcases issued?_cases hs m with ⟨hnone, hsame⟩ | ⟨hnew, hnext⟩
    · rw [issued, hnone, Option.toList_none, List.nil_append, hrest, hsame, List.length_range']
    · rw [issued, hnew, Option.toList_some, List.cons_append, List.nil_append, hrest, hnext,
        List.length_cons, List.length_range', List.range'_succ]

/-! ## Numbers in the session -/

/-- The numbers of the requests, and of the request to shut down. -/
def Known (s : Session) (numbers : List Nat) : Prop :=
  (∀ r ∈ s.requests, r.id ∈ numbers) ∧ ∀ id, s.stopping.bind (·.id) = some id → id ∈ numbers

/-- The numbers of the requests after a moment are those from before, and the one given out. -/
lemma mem_numbers_step (m : Moment) {r : Request} (hr : r ∈ (s.step m.now m.event).requests) :
    (∃ r' ∈ s.requests, r'.id = r.id) ∨ s.issued? m = some r.id := by
  obtain ⟨now, e⟩ := m
  have hmove := move_step s now e
  have hrequests : (s.step now e).requests = (s.step now e).ledger.requests := rfl
  rw [hrequests] at hr
  generalize (s.step now e).ledger = l at hmove hr
  cases hmove with
  | begun task params hdown =>
    rcases List.mem_append.1 hr with hr | hr
    · exact .inl ⟨r, hr, rfl⟩
    · rw [List.mem_singleton.1 hr]
      refine .inr ?_
      simp only [issued?, Session.begin, hdown]
      rfl
  | turned _ _ _ => exact .inl (exists_of_mem_mapRequest hr fun _ => rfl)
  | stoppedBy _ _ _ _ _ => exact .inl (exists_of_mem_mapRequest hr fun _ => rfl)
  | abandoned id => exact .inl ⟨r, (List.mem_filter.1 hr).1, rfl⟩
  | answered _ _ _ _ => exact .inl (exists_of_mem_mapRequest hr fun _ => rfl)
  | _ => exact .inl ⟨r, hr, rfl⟩

/-- Only a step of the stopping gives the request to shut down a number. -/
lemma Move.shutdown_eq {now : Instant} {e : Event} {l : Ledger} (h : Move s now e l)
    (he : e ≠ .stopping) {id : Nat} (hid : l.stopping.bind (·.id) = some id) :
    s.stopping.bind (·.id) = some id := by
  cases h with
  | stoppedBy _ _ _ _ _ => cases hid
  | disposed _ _ _ _ => cases hid
  | stopped _ _ _ _ => exact absurd rfl he
  | answered id' _ _ _ =>
    cases ht : s.stopping with
    | none =>
      simp only [ht, Option.map_none] at hid
      cases hid
    | some t =>
      simp only [ht, Option.map_some, Option.bind_some] at hid ⊢
      split at hid <;> exact hid
  | _ => exact hid

/-- The number of the request to shut down after a moment is that from before, or is given out. -/
lemma shutdown_step (m : Moment) {id : Nat}
    (hid : (s.step m.now m.event).stopping.bind (·.id) = some id) :
    s.stopping.bind (·.id) = some id ∨ s.issued? m = some id := by
  obtain ⟨now, e⟩ := m
  by_cases he : e = .stopping
  · subst he
    by_cases hsame : (s.step now .stopping).stopping.bind (·.id) = s.stopping.bind (·.id)
    · exact .inl (hsame.symm.trans hid)
    · refine .inr ?_
      simp only [issued?, if_neg hsame]
      exact hid
  · exact .inl ((move_step s now e).shutdown_eq he hid)

/-- **Every number in the session has been given out.** -/
theorem known_run (root : Path) (requestTimeout idleTimeout : Span) (began : Instant)
    (ms : List Moment) :
    let first := start root requestTimeout idleTimeout began
    (first.run ms).Known (first.issued ms) := by
  intro first
  induction ms using List.reverseRecOn with
  | nil => exact ⟨fun _ hr => absurd hr List.not_mem_nil, fun _ hid => by cases hid⟩
  | append_singleton ms m ih =>
    rw [run_concat, issued_concat]
    obtain ⟨hrequests, hshutdown⟩ := ih
    refine ⟨fun r hr => ?_, fun id hid => ?_⟩
    · rcases mem_numbers_step m hr with ⟨r', hr', hid⟩ | hnew
      · exact List.mem_append_left _ (hid ▸ hrequests r' hr')
      · exact List.mem_append_right _ (by simp [hnew])
    · rcases shutdown_step m hid with hbefore | hnew
      · exact List.mem_append_left _ (hshutdown id hbefore)
      · exact List.mem_append_right _ (by simp [hnew])

/-! ## The request of a number in a run -/

/-- The counter does not go back. -/
lemma nextId_le_run (hs : s.ledger.Sound) (ms : List Moment) : s.nextId ≤ (s.run ms).nextId := by
  induction ms generalizing s with
  | nil => exact Nat.le_refl _
  | cons m ms ih =>
    have hrest := ih (hs.move (move_step s m.now m.event))
    rcases issued?_cases hs m with ⟨-, hsame⟩ | ⟨-, hnext⟩
    · exact Nat.le_trans (Nat.le_of_eq hsame.symm) hrest
    · exact Nat.le_trans (Nat.le_of_lt (by rw [hnext]; exact Nat.lt_succ_self _)) hrest

/-- The number of a request that has gone is not given to another. -/
lemma request?_step_eq_none (hs : s.ledger.Sound) {id : Nat} (hid : id < s.nextId)
    (hnone : s.request? id = none) (m : Moment) :
    (s.step m.now m.event).request? id = none := by
  rw [Option.eq_none_iff_forall_not_mem]
  intro r hr
  obtain ⟨hmem, hrid⟩ := mem_of_request? hr
  rcases mem_numbers_step m hmem with ⟨r', hr', hsame⟩ | hnew
  · have hne := List.find?_eq_none.1 hnone r' hr'
    simp [hsame, hrid] at hne
  · rcases issued?_cases hs m with ⟨hnot, -⟩ | ⟨hissued, -⟩
    · cases hnot.symm.trans hnew
    · rw [hissued, hrid] at hnew
      exact Nat.ne_of_lt hid (Option.some.inj hnew).symm

/-- **What each moment keeps of the request of a number, every run keeps.** -/
theorem request_run (hs : s.ledger.Sound) {r : Request} (hr : s.request? r.id = some r)
    {P : List Moment → Request → Prop} (hbefore : P [] r)
    (hstep : ∀ ms now e r₁ r₂, (s.run ms).request? r.id = some r₁ → r₁.id = r.id → P ms r₁ →
      Fate (s.run ms) now r₁ e (some r₂) → P (ms ++ [⟨now, e⟩]) r₂) (ms : List Moment) :
    ∀ r', (s.run ms).request? r.id = some r' → P ms r' := by
  induction ms using List.reverseRecOn with
  | nil =>
    intro r' hr'
    cases hr.symm.trans hr'
    exact hbefore
  | append_singleton ms m ih =>
    intro r' hr'
    rw [run_concat] at hr'
    have hrun := sound_run hs ms
    cases h : (s.run ms).request? r.id with
    | none =>
      have hlt : r.id < s.nextId := hs.below r (mem_of_request? hr).1
      have hnone := request?_step_eq_none hrun (Nat.lt_of_lt_of_le hlt (nextId_le_run hs ms)) h m
      cases hnone.symm.trans hr'
    | some r₁ =>
      have hid : r₁.id = r.id := (mem_of_request? h).2
      have hfate := fate_step (by rw [hid]; exact h) m.now m.event
      rw [hid, hr'] at hfate
      exact hstep ms m.now m.event r₁ r' h hid (ih r₁ h) hfate

end LintPool.Session
