import LintPool.Proofs.Session.Pending

set_option autoImplicit false

/-!
# When no task can go on

The tasks of a session take their steps until none of them can go on by itself. What they then wait
for says what is pending: unless somebody has turned away from a request, the pending numbers are
those of the requests that are neither over nor answered.

## Main definitions

* `LintPool.Ledger.Owned` — whoever has a number pending is there.

## Main results

* `LintPool.Session.stuck_request` — what a request waits for.
* `LintPool.Session.mem_pending_iff` — what is pending when no task can go on.
-/

namespace LintPool

/-! ## Nobody has turned away -/

/-- Whoever has a number pending is there. -/
def Ledger.Owned (l : Ledger) : Prop :=
  ∀ id ∈ l.pending, id ∈ l.requests.map (·.id) ∨ ∃ t, l.stopping = some t ∧ t.id = some id

namespace Ledger.Owned

variable {s : Session} {now : Instant}

/-- After the step of a request, and with the stopping as it is. -/
lemma turned (ho : s.ledger.Owned) {r : Request} (hr : s.request? r.id = some r)
    {phase : RequestPhase} {pending : List Nat} (h : Session.Turn s now r phase pending) :
    Ledger.Owned { s.ledger with requests := (s.setPhase r.id phase).requests, pending } := by
  intro id hid
  dsimp only at hid ⊢
  rw [Session.setPhase, Session.map_id_mapRequest s r.id (fun r => { r with phase }) fun _ => rfl]
  rcases h.mem_or hid with hid | rfl
  · exact ho id hid
  · exact .inl (List.mem_map_of_mem (Session.mem_of_request? hr).1)

/-- The stopping that is ordered first has no number yet, and replaces none. -/
lemma disposed {l : Ledger} (ho : l.Owned) (hnone : l.stopping = none) (deadline : Instant) :
    Ledger.Owned { l with
      disposed := true
      stopping := some ⟨.draining deadline, none, false⟩ } := by
  intro id hid
  rcases ho id hid with hmem | ⟨t, ht, -⟩
  · exact .inl hmem
  · cases hnone.symm.trans ht

/-- After a reply has been handed out. -/
lemma answered (ho : s.ledger.Owned) (id : Nat) (reply : Reply) :
    Ledger.Owned { s.ledger with
      pending := s.pending.filter (· ≠ id)
      requests := (s.mapRequest id fun r => { r with reply := some reply }).requests
      stopping := s.stopping.map fun t =>
        if t.id = some id then { t with answered := true } else t } := by
  intro id' hid'
  dsimp only
  rw [Session.map_id_mapRequest s id (fun r => { r with reply := some reply }) fun _ => rfl]
  rcases ho id' (List.mem_filter.1 hid').1 with hmem | ⟨t, ht, hid⟩
  · exact .inl hmem
  · refine .inr ⟨_, Option.map_eq_some_iff.2 ⟨t, ht, rfl⟩, ?_⟩
    split <;> exact hid

/-- After the step of the stopping. -/
lemma stopped (ho : s.ledger.Owned) (hs : s.ledger.Sound) {t t' : Stopping}
    (ht : s.stopping = some t) {pending : List Nat} {nextId : Nat}
    (h : Session.StopTurn s t t' pending nextId) :
    Ledger.Owned { s.ledger with pending, nextId, stopping := some t' } := by
  intro id hid
  by_cases hnumber : t.id = some id
  · cases h with
    | numbered hphase =>
      have hasking := ((hs.stoppingFits t ht).listed id hnumber hid).2
      rw [hphase] at hasking
      cases hasking
    | _ => exact .inr ⟨_, rfl, hnumber⟩
  · rcases ho id ((h.mem_iff hnumber).1 hid) with hmem | ⟨t₀, ht₀, hid₀⟩
    · exact .inl hmem
    · cases ht.symm.trans ht₀
      exact absurd hid₀ hnumber

/-- Every move keeps this, unless somebody turns away. -/
theorem move (ho : s.ledger.Owned) (hs : s.ledger.Sound) {e : Session.Event} {l : Ledger}
    (h : Session.Move s now e l) (he : ∀ id, e ≠ .abandoned id) : l.Owned := by
  cases h with
  | begun task params _ =>
    intro id hid
    rcases ho id hid with hmem | hstopping
    · exact .inl (by
        rw [List.map_append]
        exact List.mem_append_left _ hmem)
    · exact .inr hstopping
  | turned r hr hturn => exact ho.turned hr hturn
  | stoppedBy r hr hturn hdisposed deadline =>
    exact (ho.turned hr hturn).disposed (hs.ordered hdisposed) deadline
  | abandoned id => exact absurd rfl (he id)
  | answered id reply _ _ => exact ho.answered id reply
  | cleared _ => exact fun _ hid => absurd hid List.not_mem_nil
  | disposed _ _ hdisposed deadline =>
    exact Ledger.Owned.disposed ho (hs.ordered hdisposed) deadline
  | stopped t t' ht hturn => exact ho.stopped hs ht hturn
  | _ => exact ho

end Ledger.Owned

namespace Session

variable {s : Session} {now : Instant}

/-! ## When no task can go on -/

/-- A request that can take no step is over, waits for room among the orders of the writer, or waits
for its reply. -/
lemma stuck_request {r : Request} (hr : s.request? r.id = some r)
    (h : s.stepRequest r.id now = none) :
    r.isFinished = true ∨
      (r.phase = .sending ∧ s.writerOver = false ∧ queueCapacity ≤ s.queue.length) ∨
      ∃ deadline, r.phase = .waiting deadline ∧ r.reply = none ∧ r.id ∈ s.pending := by
  simp only [stepRequest, hr] at h
  cases hphase : r.phase with
  | sending =>
    simp only [hphase, stepSending, enqueue?] at h
    refine .inr (.inl ⟨rfl, ?_⟩)
    split at h
    · cases h
    · split at h
      · cases h
      · exact ⟨by simp_all, by omega⟩
  | waiting deadline =>
    simp only [hphase, stepWaiting] at h
    refine .inr (.inr ⟨deadline, rfl, ?_⟩)
    split at h
    · cases h
    · split at h
      · cases h
      · exact ⟨‹_›, by simp_all⟩
  | finished result => exact .inl (by rw [Request.isFinished, hphase])
  | _ => simp [hphase] at h

/-- A stopping that can take no step, and has entered its request, has not struck it yet. -/
lemma stuck_stopping {t : Stopping} {id : Nat} (ht : s.stopping = some t) (hid : t.id = some id)
    (hasking : t.phase.isAsking = true) (h : s.stepStopping now = none) :
    t.phase ≠ .withdrawing := by
  intro hphase
  obtain ⟨phase, number, answered⟩ := t
  simp only at hphase hid
  subst hphase hid
  simp [stepStopping, ht] at h

/-- The pending numbers have owners throughout a run in which nobody turns away. -/
lemma owned_run (hs : s.ledger.Sound) (ho : s.ledger.Owned) (ms : List Moment)
    (hstay : ∀ m ∈ ms, ∀ id, m.event ≠ .abandoned id) : (s.run ms).ledger.Owned := by
  induction ms generalizing s with
  | nil => exact ho
  | cons m ms ih =>
    have hmove := move_step s m.now m.event
    exact ih (hs.move hmove) (ho.move hs hmove (hstay m List.mem_cons_self))
      fun m' hm' => hstay m' (List.mem_cons_of_mem _ hm')

/-- Whether a number is that of a request to shut down which waits for its reply. -/
def AsksToStop (s : Session) (id : Nat) : Prop :=
  ∃ t, s.stopping = some t ∧ t.id = some id ∧ t.phase.isAsking = true ∧ t.answered = false

/-- Whether a number is that of a request which is neither over nor answered. -/
def Unanswered (s : Session) (id : Nat) : Prop :=
  ∃ r ∈ s.requests, r.id = id ∧ r.isFinished = false ∧ r.reply = none

/-- **What is pending when no task can go on**, as long as the reader is not over: the numbers of
the requests, and of the request to shut down, that are neither over nor answered. -/
theorem mem_pending_iff (hs : s.ledger.Sound) (ho : s.ledger.Owned)
    (hquiet : s.stepAny now = none) (hreader : s.reader.stage ≠ .over) (id : Nat) :
    id ∈ s.pending ↔ s.Unanswered id ∨ s.AsksToStop id := by
  simp only [stepAny, Option.or_eq_none_iff, stepAnyRequest, List.findSome?_eq_none_iff] at hquiet
  obtain ⟨hrequests, -, -, hstopping, -⟩ := hquiet
  constructor
  · intro hid
    rcases ho id hid with hmem | ⟨t, ht, hnumber⟩
    · obtain ⟨r, hr, rfl⟩ := List.mem_map.1 hmem
      obtain ⟨hreply, houtside⟩ := (hs.fits r hr).listed hid
      refine .inl ⟨r, hr, rfl, ?_, hreply⟩
      cases hphase : r.phase with
      | finished _ => rw [hphase] at houtside; cases houtside
      | _ => rw [Request.isFinished, hphase]
    · obtain ⟨hanswered, hasking⟩ := (hs.stoppingFits t ht).listed id hnumber hid
      exact .inr ⟨t, ht, hnumber, hasking, hanswered⟩
  · rintro (⟨r, hr, rfl, hfinished, hreply⟩ | ⟨t, ht, hnumber, hasking, hanswered⟩)
    · have hlive : r.phase.isLive = true := by
        rcases stuck_request (request?_of_mem hs.ids hr) (hrequests r hr) with
          hover | ⟨hphase, -⟩ | ⟨deadline, hphase, -⟩
        · cases hfinished.symm.trans hover
        · rw [hphase]; rfl
        · rw [hphase]; rfl
      exact (hs.fits r hr).awaited hlive hreply hreader
    · have hphase := stuck_stopping ht hnumber hasking hstopping
      exact (hs.stoppingFits t ht).awaited id hnumber hasking hphase hanswered hreader

/-- A request that is answered and not over, when no task can go on, waits for room among the orders
of the writer. -/
lemma sending_of_answered (hs : s.ledger.Sound) (hquiet : s.stepAny now = none) {r : Request}
    (hr : r ∈ s.requests) (hfinished : r.isFinished = false) (hreply : r.reply ≠ none) :
    r.phase = .sending ∧ s.writerOver = false ∧ queueCapacity ≤ s.queue.length := by
  simp only [stepAny, Option.or_eq_none_iff, stepAnyRequest, List.findSome?_eq_none_iff] at hquiet
  rcases stuck_request (request?_of_mem hs.ids hr) (hquiet.1 r hr) with
    hover | hsending | ⟨deadline, -, hnone, -⟩
  · cases hfinished.symm.trans hover
  · exact hsending
  · exact absurd hnone hreply

end Session

end LintPool
