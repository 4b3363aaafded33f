import LintPool.Proofs.Session.Runs

set_option autoImplicit false

/-!
# The pending requests

A reply is handed to a request by its number, so everything depends on which numbers are pending.
Here is the invariant that ties the counter, the pending numbers, the requests, the stopping and the
end of the session together, and what it says of one request: how the request of a number may change
at a moment.

## Main definitions

* `LintPool.Request.Fits`, `LintPool.Stopping.Fits` — how far a request, or the stopping, is agrees
  with whether its number is pending.
* `LintPool.Ledger.Sound` — the invariant.
* `LintPool.Session.Fate` — how the request of a number may change at a moment.

## Main results

* `LintPool.Session.sound_run` — the invariant holds throughout every run.
* `LintPool.Session.fate_step` — the fate of each request at each moment.
-/

namespace LintPool

/-! ## How far a request is -/

/-- Whether a request has passed the look at whether the session is over, and goes on to its
reply. -/
def RequestPhase.isQueued : RequestPhase → Bool
  | .sending | .waiting _ => true
  | _ => false

/-- A request that goes on to its reply and does not wait for it yet is about to be queued. -/
lemma RequestPhase.eq_sending {phase : RequestPhase} (hqueued : phase.isQueued = true)
    (hwaits : phase.isWaiting = false) : phase = .sending := by
  cases phase with
  | sending => rfl
  | waiting _ => cases hwaits
  | _ => cases hqueued

/-- Whether a request has been entered among the pending ones, and has neither withdrawn nor
ended. -/
def RequestPhase.isLive : RequestPhase → Bool
  | .checking | .sending | .waiting _ => true
  | _ => false

/-- A request that goes on to its reply is live. -/
lemma RequestPhase.isQueued_of_not_isLive {phase : RequestPhase} (h : phase.isLive = false) :
    phase.isQueued = false := by
  cases phase with
  | sending => cases h
  | waiting _ => cases h
  | _ => rfl

/-- Whether a request is still to be entered, or over. -/
def RequestPhase.isOutside : RequestPhase → Bool
  | .registering | .finished _ => true
  | _ => false

/-- A stopping that is behind its request asks no more. -/
lemma StopPhase.isAsking_of_isLate {phase : StopPhase} (h : phase.isLate = true) :
    phase.isAsking = false := by
  cases phase with
  | draining _ => cases h
  | registering => cases h
  | sending => cases h
  | waiting _ => cases h
  | withdrawing => cases h
  | _ => rfl

/-- How far a request is agrees with whether its number is pending. -/
structure Request.Fits (r : Request) (stage : Reader.Stage) (pending : List Nat) : Prop where
  /-- A pending request has been entered, is not over, and has no reply. -/
  listed : r.id ∈ pending → r.reply = none ∧ r.phase.isOutside = false
  /-- A request that is not entered yet has no reply. -/
  fresh : r.phase = .registering → r.reply = none
  /-- A request that goes on to its reply is pending until the end of the session. -/
  awaited : r.phase.isLive = true → r.reply = none → stage ≠ .over → r.id ∈ pending
  /-- None that has passed the look at the end of the session is pending after it. -/
  cut : stage = .over → r.phase.isQueued = true → r.id ∉ pending

/-- How far the stopping is agrees with whether the number of the request to shut down is
pending. -/
structure Stopping.Fits (t : Stopping) (stage : Reader.Stage) (pending : List Nat) : Prop where
  /-- A pending request to shut down is under way, and not answered. -/
  listed : ∀ id, t.id = some id → id ∈ pending → t.answered = false ∧ t.phase.isAsking = true
  /-- A request to shut down that waits for its reply is pending until the end of the session. -/
  awaited : ∀ id, t.id = some id → t.phase.isAsking = true → t.phase ≠ .withdrawing →
    t.answered = false → stage ≠ .over → id ∈ pending
  /-- The request to shut down is not answered before it is entered. -/
  fresh : t.phase.isAsking = false → t.phase.isLate = false → t.answered = false

/-- **The invariant**: the numbers are distinct and below the counter, every request and the
stopping fit the pending numbers, and what is said of the end of the session agrees with how far it
is. -/
structure Ledger.Sound (l : Ledger) : Prop where
  /-- No two requests have one number. -/
  ids : (l.requests.map (·.id)).Nodup
  /-- No number is pending twice. -/
  pendings : l.pending.Nodup
  /-- The numbers of the requests have been given. -/
  below : ∀ r ∈ l.requests, r.id < l.nextId
  /-- The pending numbers have been given. -/
  pendingBelow : ∀ id ∈ l.pending, id < l.nextId
  /-- Every request fits. -/
  fits : ∀ r ∈ l.requests, r.Fits l.stage l.pending
  /-- The stopping fits. -/
  stoppingFits : ∀ t, l.stopping = some t → t.Fits l.stage l.pending
  /-- The number of the request to shut down has been given, and to no other. -/
  shutdown : ∀ t id, l.stopping = some t → t.id = some id →
    id < l.nextId ∧ ∀ r ∈ l.requests, r.id ≠ id
  /-- The stopping begins when it is ordered. -/
  ordered : l.disposed = false → l.stopping = none
  /-- It is said that the session is over before the pending requests are struck. -/
  exited : l.exited = true ↔ l.stage = .clearing ∨ l.stage = .over
  /-- Why the session is over is noted before it is said. -/
  reasoned : l.exitReason = none → l.stage = .open

/-! ## What keeps a request fitting -/

namespace Request.Fits

variable {r : Request} {stage : Reader.Stage} {pending : List Nat}

/-- Whether other numbers are pending makes no difference. -/
lemma congr {pending' : List Nat} (h : r.Fits stage pending)
    (hiff : r.id ∈ pending' ↔ r.id ∈ pending) : r.Fits stage pending' where
  listed hmem := h.listed (hiff.1 hmem)
  fresh := h.fresh
  awaited hlive hreply hstage := hiff.2 (h.awaited hlive hreply hstage)
  cut hstage hqueued := fun hmem => h.cut hstage hqueued (hiff.1 hmem)

/-- Nothing changes as the end of the session comes nearer. -/
lemma nearer {stage' : Reader.Stage} (h : r.Fits stage pending) (hstage : stage ≠ .over)
    (hstage' : stage' ≠ .over) : r.Fits stage' pending where
  listed := h.listed
  fresh := h.fresh
  awaited hlive hreply _ := h.awaited hlive hreply hstage
  cut hover := absurd hover hstage'

/-- After the pending requests have been struck. -/
lemma cleared (h : r.Fits stage pending) : r.Fits .over [] where
  listed hmem := absurd hmem List.not_mem_nil
  fresh := h.fresh
  awaited _ _ hstage := absurd rfl hstage
  cut _ _ := List.not_mem_nil

/-- A request that has just got its number. -/
lemma registering {id : Nat} (task : Task) (params : Json) (hid : id ∉ pending) :
    Request.Fits ⟨id, task, params, none, .registering⟩ stage pending where
  listed hmem := absurd hmem hid
  fresh _ := rfl
  awaited hlive := by cases hlive
  cut _ hqueued := by cases hqueued

/-- A request that is on its way out, or over. -/
lemma dormant (hphase : r.phase ≠ .registering) (hlive : r.phase.isLive = false)
    (hlisted : r.id ∈ pending → r.reply = none ∧ r.phase.isOutside = false) :
    r.Fits stage pending where
  listed := hlisted
  fresh h := absurd h hphase
  awaited h := by
    rw [hlive] at h
    cases h
  cut _ h := by
    rw [RequestPhase.isQueued_of_not_isLive hlive] at h
    cases h

/-- A pending request that gets its reply is pending no more. -/
lemma answered (h : r.Fits stage pending) (hmem : r.id ∈ pending) (reply : Reply) :
    Request.Fits { r with reply := some reply } stage (pending.filter (· ≠ r.id)) where
  listed hmem' := by simp at hmem'
  fresh hphase := by
    have houtside := (h.listed hmem).2
    rw [show r.phase = .registering from hphase] at houtside
    cases houtside
  awaited _ hreply := by cases hreply
  cut _ _ := by simp

end Request.Fits

namespace Stopping.Fits

variable {t : Stopping} {stage : Reader.Stage} {pending : List Nat}

/-- Whether other numbers are pending makes no difference. -/
lemma congr {pending' : List Nat} (h : t.Fits stage pending)
    (hiff : ∀ id, t.id = some id → (id ∈ pending' ↔ id ∈ pending)) : t.Fits stage pending' where
  listed id hid hmem := h.listed id hid ((hiff id hid).1 hmem)
  awaited id hid hasking hphase hanswered hstage :=
    (hiff id hid).2 (h.awaited id hid hasking hphase hanswered hstage)
  fresh := h.fresh

/-- Nothing changes as the end of the session comes nearer. -/
lemma nearer {stage' : Reader.Stage} (h : t.Fits stage pending) (hstage : stage ≠ .over) :
    t.Fits stage' pending where
  listed := h.listed
  awaited id hid hasking hphase hanswered _ := h.awaited id hid hasking hphase hanswered hstage
  fresh := h.fresh

/-- After the pending requests have been struck. -/
lemma cleared (h : t.Fits stage pending) : t.Fits .over [] where
  listed _ _ hmem := absurd hmem List.not_mem_nil
  awaited _ _ _ _ _ hstage := absurd rfl hstage
  fresh := h.fresh

/-- A stopping that has just begun. -/
lemma draining (deadline : Instant) : Stopping.Fits ⟨.draining deadline, none, false⟩ stage pending
    where
  listed _ hid := by cases hid
  awaited _ hid := by cases hid
  fresh _ _ := rfl

end Stopping.Fits

namespace Session

variable {s : Session} {now : Instant} {e : Event}

/-! ## What a step of a request does -/

/-- A step of a request leaves the other numbers as they are. -/
lemma Turn.mem_iff {r : Request} {phase : RequestPhase} {pending : List Nat}
    (h : Turn s now r phase pending) {id : Nat} (hid : id ≠ r.id) :
    id ∈ pending ↔ id ∈ s.pending := by
  cases h <;> simp [hid]

/-- The pending numbers after the step of a request are those from before and its own. -/
lemma Turn.mem_or {r : Request} {phase : RequestPhase} {pending : List Nat}
    (h : Turn s now r phase pending) {id : Nat} (hid : id ∈ pending) :
    id ∈ s.pending ∨ id = r.id := by
  by_cases hne : id = r.id
  · exact .inr hne
  · exact .inl ((h.mem_iff hne).1 hid)

/-- A request that withdraws ends as the cause has it. -/
lemma Turn.of_withdrawing {r : Request} {phase : RequestPhase} {pending : List Nat}
    (h : Turn s now r phase pending) {cause : Withdrawal} (hphase : r.phase = .withdrawing cause) :
    phase = .finished (.error (s.crashed (s.withdrawalMessage r.task cause))) := by
  cases h <;> cases hphase.symm.trans ‹r.phase = _›
  rfl

/-- A request that is over takes no step. -/
lemma Turn.not_finished {r : Request} {phase : RequestPhase} {pending : List Nat}
    (h : Turn s now r phase pending) (result : CallResult) : r.phase ≠ .finished result := by
  intro hphase
  cases h <;> cases hphase.symm.trans ‹r.phase = _›

/-- No number is pending twice after the step of a request. -/
lemma Turn.nodup {r : Request} {phase : RequestPhase} {pending : List Nat}
    (h : Turn s now r phase pending) (hnodup : s.pending.Nodup)
    (hfits : r.Fits s.reader.stage s.pending) : pending.Nodup := by
  cases h with
  | registered hphase =>
    have hid : r.id ∉ s.pending := by
      intro hmem
      have houtside := (hfits.listed hmem).2
      rw [hphase] at houtside
      cases houtside
    exact hnodup.append (List.nodup_singleton _) (List.disjoint_singleton.2 hid)
  | withdrew _ => exact hnodup.filter _
  | _ => exact hnodup

/-- A request fits after its step. -/
lemma Turn.fits {r : Request} {phase : RequestPhase} {pending : List Nat}
    (h : Turn s now r phase pending) (hfits : r.Fits s.reader.stage s.pending)
    (hexited : s.exited = true ↔ s.reader.stage = .clearing ∨ s.reader.stage = .over) :
    Request.Fits { r with phase } s.reader.stage pending := by
  cases h with
  | registered hphase =>
    exact ⟨fun _ => ⟨hfits.fresh hphase, rfl⟩, by simp, by simp, fun _ hqueued => by cases hqueued⟩
  | passed hphase hs =>
    -- The pending ones are struck only after it has been said that the session is over.
    have hstage : s.reader.stage ≠ .over := by
      intro hover
      rw [hexited.2 (.inr hover)] at hs
      cases hs
    exact ⟨fun hmem => ⟨(hfits.listed hmem).1, rfl⟩, by simp,
      fun _ hreply hopen => hfits.awaited (by rw [hphase]; rfl) hreply hopen,
      fun hover => absurd hover hstage⟩
  | turnedAway hphase hs =>
    exact .dormant (by simp) rfl fun hmem => ⟨(hfits.listed hmem).1, rfl⟩
  | queued hphase =>
    exact ⟨fun hmem => ⟨(hfits.listed hmem).1, rfl⟩, by simp,
      fun _ hreply hopen => hfits.awaited (by rw [hphase]; rfl) hreply hopen,
      fun hover _ => hfits.cut hover (by rw [hphase]; rfl)⟩
  | inputClosed hphase =>
    exact .dormant (by simp) rfl fun hmem => ⟨(hfits.listed hmem).1, rfl⟩
  | settled hphase hreply =>
    -- A reply strikes the number, so nothing is left of a settled request.
    have hid : r.id ∉ s.pending := by
      intro hmem
      rw [(hfits.listed hmem).1] at hreply
      cases hreply
    exact .dormant (by simp) rfl fun hmem => absurd hmem hid
  | cutOff hphase hreply hid =>
    exact .dormant (by simp) rfl fun hmem => absurd hmem hid
  | expired hphase hreply hid hdeadline =>
    exact .dormant (by simp) rfl fun _ => ⟨hreply, rfl⟩
  | withdrew hphase =>
    exact .dormant (by simp) rfl fun hmem => by simp at hmem

/-! ## What a step of the stopping does -/

namespace StopTurn

variable {t t' : Stopping} {pending : List Nat} {nextId : Nat}

/-- A step of the stopping leaves the numbers of the requests as they are. -/
lemma mem_iff (h : StopTurn s t t' pending nextId) {id : Nat} (hid : t.id ≠ some id) :
    id ∈ pending ↔ id ∈ s.pending := by
  cases h with
  | registered _ hid' =>
    have hne : id ≠ _ := fun heq => hid (heq ▸ hid')
    simp [hne]
  | struck _ hid' =>
    have hne : id ≠ _ := fun heq => hid (heq ▸ hid')
    simp [hne]
  | _ => rfl

/-- The counter does not go back. -/
lemma nextId_le (h : StopTurn s t t' pending nextId) : s.nextId ≤ nextId := by
  cases h <;> omega

/-- The number of the request to shut down is kept, or is the counter's next. -/
lemma id_or (h : StopTurn s t t' pending nextId) :
    t'.id = t.id ∧ nextId = s.nextId ∨ t'.id = some s.nextId ∧ nextId = s.nextId + 1 := by
  cases h with
  | numbered _ => exact .inr ⟨rfl, rfl⟩
  | _ => exact .inl ⟨rfl, rfl⟩

/-- No number is pending twice after the step of the stopping. -/
lemma nodup (h : StopTurn s t t' pending nextId) (hnodup : s.pending.Nodup)
    (hfits : t.Fits s.reader.stage s.pending) : pending.Nodup := by
  cases h with
  | registered hphase hid =>
    rename_i id
    have hmem : id ∉ s.pending := by
      intro hmem
      have hasking := (hfits.listed id hid hmem).2
      rw [hphase] at hasking
      cases hasking
    exact hnodup.append (List.nodup_singleton _) (List.disjoint_singleton.2 hmem)
  | struck _ _ => exact hnodup.filter _
  | _ => exact hnodup

/-- The stopping fits after its step. -/
lemma fits (h : StopTurn s t t' pending nextId) (hfits : t.Fits s.reader.stage s.pending)
    (hbelow : ∀ id ∈ s.pending, id < s.nextId) : t'.Fits s.reader.stage pending := by
  cases h with
  | numbered hphase =>
    -- The counter's next number is not pending yet.
    refine ⟨?_, fun _ _ hasking => (by cases hasking),
      fun _ _ => hfits.fresh (by rw [hphase]; rfl) (by rw [hphase]; rfl)⟩
    rintro id hid hmem
    cases hid
    exact absurd (hbelow _ hmem) (Nat.lt_irrefl _)
  | registered hphase hid =>
    have hanswered := hfits.fresh (by rw [hphase]; rfl) (by rw [hphase]; rfl)
    refine ⟨fun _ _ _ => ⟨hanswered, rfl⟩, ?_, fun hasking => by cases hasking⟩
    intro id' hid' _ _ _ _
    have heq : some id' = some _ := hid'.symm.trans hid
    cases heq
    simp
  | asked hphase deadline =>
    exact ⟨fun id hid hmem => ⟨(hfits.listed id hid hmem).1, rfl⟩,
      fun id hid _ _ hanswered hstage => hfits.awaited id hid (by rw [hphase]; rfl)
        (by rw [hphase]; simp) hanswered hstage,
      fun hasking => by cases hasking⟩
  | gaveUp hasking =>
    exact ⟨fun id hid hmem => ⟨(hfits.listed id hid hmem).1, rfl⟩,
      fun _ _ _ hphase => absurd rfl hphase, fun hasking => by cases hasking⟩
  | struck hphase hid =>
    refine ⟨?_, fun _ _ hasking => (by cases hasking), fun _ hlate => by cases hlate⟩
    intro id' hid' hmem
    have heq : some id' = some _ := hid'.symm.trans hid
    cases heq
    simp at hmem
  | onward hasking hlate =>
    refine ⟨?_, ?_, fun _ hphase => ?_⟩
    · intro id hid hmem
      rcases hasking with hasking | hnone
      · rw [(hfits.listed id hid hmem).2] at hasking
        cases hasking
      · cases hnone.symm.trans hid
    · intro id _ hphase
      rw [StopPhase.isAsking_of_isLate hlate] at hphase
      cases hphase
    · rw [show _ = true from hlate] at hphase
      cases hphase

end StopTurn

/-! ## The requests of a session -/

/-- The request of a number is one of the requests, and has that number. -/
lemma mem_of_request? {id : Nat} {r : Request} (h : s.request? id = some r) :
    r ∈ s.requests ∧ r.id = id :=
  ⟨List.mem_of_find?_eq_some h, by simpa using List.find?_some h⟩

/-- With distinct numbers, each of the requests is the request of its number. -/
lemma request?_of_mem (hids : (s.requests.map (·.id)).Nodup) {r : Request} (hr : r ∈ s.requests) :
    s.request? r.id = some r := by
  obtain ⟨r', hr'⟩ : ∃ r', s.request? r.id = some r' := by
    rw [← Option.isSome_iff_exists, request?, List.find?_isSome]
    exact ⟨r, hr, by simp⟩
  obtain ⟨hmem, hid⟩ := mem_of_request? hr'
  rw [hr', List.inj_on_of_nodup_map hids hmem hr hid]

/-- A change to the request of a number changes no number. -/
lemma map_id_mapRequest (s : Session) (id : Nat) (f : Request → Request)
    (hf : ∀ r, (f r).id = r.id) :
    (s.mapRequest id f).requests.map (·.id) = s.requests.map (·.id) := by
  simp only [mapRequest, List.map_map]
  refine List.map_congr_left fun r _ => ?_
  simp only [Function.comp_apply]
  split
  · exact hf r
  · rfl

/-- The numbers are still distinct after a change to the request of a number. -/
lemma nodup_mapRequest (hids : (s.requests.map (·.id)).Nodup) {id : Nat} {f : Request → Request}
    (hf : ∀ r, (f r).id = r.id) : ((s.mapRequest id f).requests.map (·.id)).Nodup := by
  rw [map_id_mapRequest s id f hf]
  exact hids

/-- Every request after a change to the request of a number was there before, as it is now or to be
changed. -/
lemma mem_mapRequest {id : Nat} {f : Request → Request} {r : Request}
    (h : r ∈ (s.mapRequest id f).requests) :
    (r ∈ s.requests ∧ r.id ≠ id) ∨ ∃ r' ∈ s.requests, r'.id = id ∧ r = f r' := by
  obtain ⟨r', hr', rfl⟩ := List.mem_map.1 h
  by_cases hid : r'.id = id
  · rw [if_pos hid]
    exact .inr ⟨r', hr', hid, rfl⟩
  · rw [if_neg hid]
    exact .inl ⟨hr', hid⟩

/-- Every number after a change to the request of a number was there before. -/
lemma exists_of_mem_mapRequest {id : Nat} {f : Request → Request} {r : Request}
    (h : r ∈ (s.mapRequest id f).requests) (hf : ∀ r, (f r).id = r.id) :
    ∃ r' ∈ s.requests, r'.id = r.id := by
  rcases mem_mapRequest h with ⟨hmem, -⟩ | ⟨r', hmem, -, rfl⟩
  · exact ⟨r, hmem, rfl⟩
  · exact ⟨r', hmem, (hf r').symm⟩

end Session

/-! ## The invariant is kept -/

namespace Ledger.Sound

variable {s : Session} {now : Instant}

/-- A request begins. -/
lemma begun (hs : s.ledger.Sound) (task : Task) (params : Json) :
    Ledger.Sound { s.ledger with
      nextId := s.nextId + 1
      requests := s.requests ++ [⟨s.nextId, task, params, none, .registering⟩] } where
  ids := by
    have hnew : s.nextId ∉ s.requests.map (·.id) := by
      intro hmem
      obtain ⟨r, hr, hid⟩ := List.mem_map.1 hmem
      exact Nat.ne_of_lt (hs.below r hr) hid
    simp only [List.map_append, List.map_cons, List.map_nil]
    exact hs.ids.append (List.nodup_singleton _) (List.disjoint_singleton.2 hnew)
  pendings := hs.pendings
  below r hr := by
    rcases List.mem_append.1 hr with hr | hr
    · exact Nat.lt_succ_of_lt (hs.below r hr)
    · rw [List.mem_singleton.1 hr]
      exact Nat.lt_succ_self _
  pendingBelow id hid := Nat.lt_succ_of_lt (hs.pendingBelow id hid)
  fits r hr := by
    rcases List.mem_append.1 hr with hr | hr
    · exact hs.fits r hr
    · rw [List.mem_singleton.1 hr]
      exact .registering task params fun hmem => Nat.lt_irrefl _ (hs.pendingBelow _ hmem)
  stoppingFits := hs.stoppingFits
  shutdown t id ht hid := by
    obtain ⟨hlt, hne⟩ := hs.shutdown t id ht hid
    refine ⟨Nat.lt_succ_of_lt hlt, fun r hr => ?_⟩
    rcases List.mem_append.1 hr with hr | hr
    · exact hne r hr
    · rw [List.mem_singleton.1 hr]
      exact Nat.ne_of_gt hlt
  ordered := hs.ordered
  exited := hs.exited
  reasoned := hs.reasoned

/-- A request takes a step. -/
lemma turned (hs : s.ledger.Sound) {r : Request} (hr : s.request? r.id = some r)
    {phase : RequestPhase} {pending : List Nat} (h : Session.Turn s now r phase pending) :
    Ledger.Sound { s.ledger with requests := (s.setPhase r.id phase).requests, pending } where
  ids := Session.nodup_mapRequest hs.ids fun _ => rfl
  pendings := h.nodup hs.pendings (hs.fits r (Session.mem_of_request? hr).1)
  below r' hr' := by
    obtain ⟨r₀, hmem, hid⟩ := Session.exists_of_mem_mapRequest hr' fun _ => rfl
    rw [← hid]
    exact hs.below r₀ hmem
  pendingBelow id hid := by
    rcases h.mem_or hid with hid | rfl
    · exact hs.pendingBelow id hid
    · exact hs.below r (Session.mem_of_request? hr).1
  fits r' hr' := by
    have hmem := (Session.mem_of_request? hr).1
    rcases Session.mem_mapRequest hr' with ⟨hmem', hne⟩ | ⟨r₀, hmem', hid, rfl⟩
    · exact (hs.fits r' hmem').congr (h.mem_iff hne)
    · rw [List.inj_on_of_nodup_map hs.ids hmem' hmem hid]
      exact h.fits (hs.fits r hmem) hs.exited
  stoppingFits t ht := by
    refine (hs.stoppingFits t ht).congr fun id hid => h.mem_iff ?_
    exact ((hs.shutdown t id ht hid).2 r (Session.mem_of_request? hr).1).symm
  shutdown t id ht hid := by
    obtain ⟨hlt, hne⟩ := hs.shutdown t id ht hid
    refine ⟨hlt, fun r' hr' => ?_⟩
    obtain ⟨r₀, hmem, hid⟩ := Session.exists_of_mem_mapRequest hr' fun _ => rfl
    rw [← hid]
    exact hne r₀ hmem
  ordered := hs.ordered
  exited := hs.exited
  reasoned := hs.reasoned

/-- The stopping is ordered. -/
lemma disposed {l : Ledger} (hl : l.Sound) (deadline : Instant) :
    Ledger.Sound { l with
      disposed := true
      stopping := some ⟨.draining deadline, none, false⟩ } where
  ids := hl.ids
  pendings := hl.pendings
  below := hl.below
  pendingBelow := hl.pendingBelow
  fits := hl.fits
  stoppingFits t ht := by
    cases ht
    exact .draining deadline
  shutdown t id ht hid := by
    cases ht
    cases hid
  ordered h := by cases h
  exited := hl.exited
  reasoned := hl.reasoned

/-- A request is abandoned. -/
lemma abandoned (hs : s.ledger.Sound) (id : Nat) :
    Ledger.Sound { s.ledger with requests := s.requests.filter (·.id ≠ id) } where
  ids := hs.ids.sublist (List.filter_sublist.map _)
  pendings := hs.pendings
  below r hr := hs.below r (List.mem_filter.1 hr).1
  pendingBelow := hs.pendingBelow
  fits r hr := hs.fits r (List.mem_filter.1 hr).1
  stoppingFits := hs.stoppingFits
  shutdown t id ht hid := by
    obtain ⟨hlt, hne⟩ := hs.shutdown t id ht hid
    exact ⟨hlt, fun r hr => hne r (List.mem_filter.1 hr).1⟩
  ordered := hs.ordered
  exited := hs.exited
  reasoned := hs.reasoned

/-- A reply is handed to whoever waits for it. -/
lemma answered (hs : s.ledger.Sound) {id : Nat} (hid : id ∈ s.pending) (reply : Reply) :
    Ledger.Sound { s.ledger with
      pending := s.pending.filter (· ≠ id)
      requests := (s.mapRequest id fun r => { r with reply := some reply }).requests
      stopping := s.stopping.map fun t =>
        if t.id = some id then { t with answered := true } else t } where
  ids := Session.nodup_mapRequest hs.ids fun _ => rfl
  pendings := hs.pendings.filter _
  below r hr := by
    obtain ⟨r₀, hmem, hid'⟩ := Session.exists_of_mem_mapRequest hr fun _ => rfl
    rw [← hid']
    exact hs.below r₀ hmem
  pendingBelow id' hid' := hs.pendingBelow id' (List.mem_filter.1 hid').1
  fits r hr := by
    rcases Session.mem_mapRequest hr with ⟨hmem, hne⟩ | ⟨r₀, hmem, rfl, rfl⟩
    · exact (hs.fits r hmem).congr (by simp [Session.ledger, hne])
    · exact (hs.fits r₀ hmem).answered hid reply
  stoppingFits t' ht' := by
    obtain ⟨t, ht, rfl⟩ := Option.map_eq_some_iff.1 ht'
    have hfits := hs.stoppingFits t ht
    split
    · rename_i hnumber
      have hasking := (hfits.listed id hnumber hid).2
      refine ⟨fun id' hid' hmem => ?_, by simp, fun hphase => ?_⟩
      · have heq : some id' = some id := hid'.symm.trans hnumber
        cases heq
        simp at hmem
      · rw [show t.phase.isAsking = false from hphase] at hasking
        cases hasking
    · rename_i hnumber
      refine hfits.congr fun id' hid' => ?_
      have hne : id' ≠ id := fun heq => hnumber (heq ▸ hid')
      simp [Session.ledger, hne]
  shutdown t' id' ht' hid' := by
    obtain ⟨t, ht, rfl⟩ := Option.map_eq_some_iff.1 ht'
    have hnumber : t.id = some id' := by
      split at hid' <;> exact hid'
    obtain ⟨hlt, hne⟩ := hs.shutdown t id' ht hnumber
    refine ⟨hlt, fun r hr => ?_⟩
    obtain ⟨r₀, hmem, hid''⟩ := Session.exists_of_mem_mapRequest hr fun _ => rfl
    rw [← hid'']
    exact hne r₀ hmem
  ordered hdisposed := by
    rw [show s.stopping = none from hs.ordered hdisposed]
    rfl
  exited := hs.exited
  reasoned := hs.reasoned

/-- The end of the session comes nearer, and the pending requests are not struck yet. -/
lemma nearer (hs : s.ledger.Sound) (hbefore : s.reader.stage ≠ .over) (stage : Reader.Stage)
    (exited : Bool) (exitReason : Option String) (hafter : stage ≠ .over)
    (hexited : exited = true ↔ stage = .clearing ∨ stage = .over)
    (hreasoned : exitReason = none → stage = .open) :
    Ledger.Sound { s.ledger with stage, exited, exitReason } where
  ids := hs.ids
  pendings := hs.pendings
  below := hs.below
  pendingBelow := hs.pendingBelow
  fits r hr := (hs.fits r hr).nearer hbefore hafter
  stoppingFits t ht := (hs.stoppingFits t ht).nearer hbefore
  shutdown := hs.shutdown
  ordered := hs.ordered
  exited := hexited
  reasoned := hreasoned

/-- The pending requests are struck. -/
lemma cleared (hs : s.ledger.Sound) (h : s.reader = .clearing) :
    Ledger.Sound { s.ledger with pending := [], stage := .over } where
  ids := hs.ids
  pendings := List.nodup_nil
  below := hs.below
  pendingBelow _ hid := absurd hid List.not_mem_nil
  fits r hr := (hs.fits r hr).cleared
  stoppingFits t ht := (hs.stoppingFits t ht).cleared
  shutdown := hs.shutdown
  ordered := hs.ordered
  exited := by
    have hexited : s.exited = true := hs.exited.2 (.inl (by rw [Session.ledger, h]; rfl))
    exact ⟨fun _ => .inr rfl, fun _ => hexited⟩
  reasoned hreason := by
    have hstage := hs.reasoned hreason
    rw [Session.ledger, h] at hstage
    cases hstage

/-- The stopping takes a step. -/
lemma stopped (hs : s.ledger.Sound) {t t' : Stopping} (ht : s.stopping = some t)
    {pending : List Nat} {nextId : Nat} (h : Session.StopTurn s t t' pending nextId) :
    Ledger.Sound { s.ledger with pending, nextId, stopping := some t' } where
  ids := hs.ids
  pendings := h.nodup hs.pendings (hs.stoppingFits t ht)
  below r hr := Nat.lt_of_lt_of_le (hs.below r hr) h.nextId_le
  pendingBelow id hid := by
    by_cases hnumber : t.id = some id
    · exact Nat.lt_of_lt_of_le (hs.shutdown t id ht hnumber).1 h.nextId_le
    · exact Nat.lt_of_lt_of_le (hs.pendingBelow id ((h.mem_iff hnumber).1 hid)) h.nextId_le
  fits r hr := by
    refine (hs.fits r hr).congr (h.mem_iff fun hnumber => ?_)
    exact (hs.shutdown t r.id ht hnumber).2 r hr rfl
  stoppingFits t₁ ht₁ := by
    cases ht₁
    exact h.fits (hs.stoppingFits t ht) hs.pendingBelow
  shutdown t₁ id ht₁ hid := by
    cases ht₁
    rcases h.id_or with ⟨hsame, -⟩ | ⟨hnew, hnext⟩
    · obtain ⟨hlt, hne⟩ := hs.shutdown t id ht (hsame.symm.trans hid)
      exact ⟨Nat.lt_of_lt_of_le hlt h.nextId_le, hne⟩
    · cases Option.some.inj (hnew.symm.trans hid)
      exact ⟨Nat.lt_of_lt_of_eq (Nat.lt_succ_self _) hnext.symm,
        fun r hr => Nat.ne_of_lt (hs.below r hr)⟩
  ordered hdisposed := by
    have hnone : s.stopping = none := hs.ordered hdisposed
    rw [ht] at hnone
    cases hnone
  exited := hs.exited
  reasoned := hs.reasoned

/-- **Every move** keeps the invariant. -/
theorem move (hs : s.ledger.Sound) {e : Session.Event} {l : Ledger}
    (h : Session.Move s now e l) : l.Sound := by
  cases h with
  | begun task params _ => exact hs.begun task params
  | turned r hr hturn => exact hs.turned hr hturn
  | stoppedBy r hr hturn _ deadline => exact (hs.turned hr hturn).disposed deadline
  | abandoned id => exact hs.abandoned id
  | answered id reply _ hid => exact hs.answered hid reply
  | unheard _ _ _ _ => exact hs
  | noted reason h =>
    have hstage : s.reader.stage = .open := by rw [h]; rfl
    refine hs.nearer (by simp [hstage]) .exiting s.exited (some reason) (by simp) ?_ (by simp)
    have hexited := hs.exited
    simp only [Session.ledger, hstage] at hexited
    rw [hexited]
    simp
  | exited h =>
    have hstage : s.reader.stage = .exiting := by rw [h]; rfl
    refine hs.nearer (by simp [hstage]) .clearing true s.exitReason (by simp) (by simp) ?_
    intro hreason
    cases hstage.symm.trans (hs.reasoned hreason)
  | cleared h => exact hs.cleared h
  | disposed _ _ _ deadline => exact Ledger.Sound.disposed hs deadline
  | stopped t t' ht hturn => exact hs.stopped ht hturn
  | aside _ _ => exact hs

end Ledger.Sound

namespace Session

variable {s : Session} {now : Instant} {e : Event}

/-- The invariant holds of a session that has just been started. -/
lemma sound_start (root : Path) (requestTimeout idleTimeout : Span) (now : Instant) :
    (start root requestTimeout idleTimeout now).ledger.Sound where
  ids := List.nodup_nil
  pendings := List.nodup_nil
  below _ hr := absurd hr List.not_mem_nil
  pendingBelow _ hid := absurd hid List.not_mem_nil
  fits _ hr := absurd hr List.not_mem_nil
  stoppingFits _ ht := by cases ht
  shutdown _ _ ht := by cases ht
  ordered _ := rfl
  exited := by simp [ledger, start, Reader.stage]
  reasoned _ := rfl

/-- **The invariant holds throughout every run.** -/
theorem sound_run (hs : s.ledger.Sound) (ms : List Moment) : (s.run ms).ledger.Sound := by
  induction ms generalizing s with
  | nil => exact hs
  | cons m ms ih => exact ih (hs.move (move_step s m.now m.event))

/-! ## The fate of a request -/

/-- The request of a number after a change to it. -/
lemma request?_mapRequest_self {r : Request} (hr : s.request? r.id = some r)
    (f : Request → Request) (hf : ∀ r, (f r).id = r.id) :
    (s.mapRequest r.id f).request? r.id = some (f r) := by
  have hcomp : ((fun r' : Request => decide (r'.id = r.id)) ∘
      fun r' => if r'.id = r.id then f r' else r') = fun r' => decide (r'.id = r.id) := by
    funext r'
    by_cases hid : r'.id = r.id <;> simp [hid, hf]
  rw [request?, mapRequest, List.find?_map, hcomp, ← request?, hr]
  simp

/-- The requests of the other numbers stay as they are. -/
lemma request?_mapRequest_other {id id' : Nat} (hne : id' ≠ id) (f : Request → Request)
    (hf : ∀ r, (f r).id = r.id) : (s.mapRequest id f).request? id' = s.request? id' := by
  have hcomp : ((fun r' : Request => decide (r'.id = id')) ∘
      fun r' => if r'.id = id then f r' else r') = fun r' => decide (r'.id = id') := by
    funext r'
    by_cases hid : r'.id = id <;> simp [hid, hf]
  rw [request?, mapRequest, List.find?_map, hcomp, ← request?]
  cases hr : s.request? id' with
  | none => rfl
  | some r =>
    have hid : r.id ≠ id := by rw [(mem_of_request? hr).2]; exact hne
    simp [hid]

/-- What becomes of a request at a moment: nothing, a step of its own, a reply that is handed to it,
or that it is abandoned. -/
inductive Fate (s : Session) (now : Instant) (r : Request) : Event → Option Request → Prop where
  | kept (e : Event) (h : ∀ reply, s.handed? e = some (r.id, reply) → r.id ∉ s.pending) :
    Fate s now r e (some r)
  | turned {phase : RequestPhase} {pending : List Nat} (h : Turn s now r phase pending) :
    Fate s now r (.request r.id) (some { r with phase })
  | answered (e : Event) (reply : Reply) (hhanded : s.handed? e = some (r.id, reply))
    (hp : r.id ∈ s.pending) : Fate s now r e (some { r with reply := some reply })
  | abandoned : Fate s now r (.abandoned r.id) none

/-- What leaves all requests as they are keeps each of them, unless a reply is handed to it. -/
lemma fate_same {r : Request} (hr : s.request? r.id = some r)
    (h : ∀ reply, s.handed? e = some (r.id, reply) → r.id ∉ s.pending) :
    Fate s now r e (s.request? r.id) := by
  rw [hr]
  exact .kept e h

/-- A step of a request is a turn of it, and keeps the others. -/
lemma fate_turned {r r' : Request} (hr : s.request? r.id = some r)
    (hr' : s.request? r'.id = some r') {phase : RequestPhase} {pending : List Nat}
    (hturn : Turn s now r' phase pending) :
    Fate s now r (.request r'.id) ((s.setPhase r'.id phase).request? r.id) := by
  by_cases hid : r.id = r'.id
  · have heq : r = r' := by
      rw [← hid, hr] at hr'
      exact Option.some.inj hr'
    subst heq
    rw [setPhase, request?_mapRequest_self hr (fun r => { r with phase }) fun _ => rfl]
    exact .turned hturn
  · rw [setPhase, request?_mapRequest_other hid (fun r => { r with phase }) fun _ => rfl]
    exact fate_same hr (by simp [handed?])

/-- Abandoning a request leaves the others. -/
lemma fate_abandoned {r : Request} (hr : s.request? r.id = some r) (id : Nat) :
    Fate s now r (.abandoned id) ((s.requests.filter (·.id ≠ id)).find? (·.id = r.id)) := by
  rw [List.find?_filter]
  by_cases hid : r.id = id
  · subst hid
    rw [List.find?_eq_none.2 (by simp)]
    exact .abandoned
  · have hpred : (fun r' : Request => decide (decide (r'.id ≠ id) = true ∧
        decide (r'.id = r.id) = true)) = fun r' => decide (r'.id = r.id) := by
      funext r'
      by_cases hr' : r'.id = r.id
      · simp [hr', hid]
      · simp [hr']
    rw [hpred]
    exact fate_same hr (by simp [handed?])

/-- A reply changes the request of its number, if that is pending, and no other. -/
lemma fate_answered {r : Request} (hr : s.request? r.id = some r) {id : Nat} {reply : Reply}
    (hhanded : s.handed? e = some (id, reply)) (hp : id ∈ s.pending) :
    Fate s now r e ((s.mapRequest id fun r => { r with reply := some reply }).request? r.id) := by
  by_cases hid : r.id = id
  · subst hid
    rw [request?_mapRequest_self hr (fun r => { r with reply := some reply }) fun _ => rfl]
    exact .answered e reply hhanded hp
  · rw [request?_mapRequest_other hid (fun r => { r with reply := some reply }) fun _ => rfl]
    refine fate_same hr fun reply' hreply' => ?_
    cases hhanded.symm.trans hreply'
    exact absurd rfl hid

/-- The fate of each request in a move. -/
lemma fate_move {l : Ledger} (h : Move s now e l) {r : Request} (hr : s.request? r.id = some r) :
    Fate s now r e (l.request? r.id) := by
  cases h with
  | begun task params _ =>
    have hsame : (s.requests ++ [(⟨s.nextId, task, params, none, .registering⟩ : Request)]).find?
        (fun r' => decide (r'.id = r.id)) = s.request? r.id := by
      rw [List.find?_append, ← request?, hr]
      rfl
    rw [Ledger.request?, hsame]
    exact fate_same hr (by simp [handed?])
  | turned r' hr' hturn => exact fate_turned hr hr' hturn
  | stoppedBy r' hr' hturn _ _ => exact fate_turned hr hr' hturn
  | abandoned id => exact fate_abandoned hr id
  | answered id reply hhanded hp => exact fate_answered hr hhanded hp
  | unheard id reply hhanded hp =>
    refine fate_same hr fun reply' hreply' => ?_
    cases hhanded.symm.trans hreply'
    exact hp
  | noted reason h => exact fate_same hr (by simp [handed?, h])
  | exited h => exact fate_same hr (by simp [handed?, h])
  | cleared h => exact fate_same hr (by simp [handed?, h])
  | disposed _ he _ _ => exact fate_same hr (by rcases he with rfl | rfl <;> simp [handed?])
  | stopped _ _ _ _ => exact fate_same hr (by simp [handed?])
  | aside _ h => exact fate_same hr (by simp [h])

/-- **The fate of each request at each moment.** -/
theorem fate_step {r : Request} (hr : s.request? r.id = some r) (now : Instant) (e : Event) :
    Fate s now r e ((s.step now e).request? r.id) :=
  fate_move (move_step s now e) hr

/-! ## The step of a waiting request -/

/-- A waiting request that has a reply is settled by it at its next step. -/
lemma request?_settled {r : Request} (hr : s.request? r.id = some r) {deadline : Instant}
    (hphase : r.phase = .waiting deadline) {reply : Reply} (hreply : r.reply = some reply)
    (now : Instant) :
    (s.step now (.request r.id)).request? r.id =
      some { r with phase := .finished (r.task.settle reply) } := by
  have hstep : s.step now (.request r.id) = s.finish r.id (r.task.settle reply) now := by
    simp only [step, stepRequest, hr, hphase, stepWaiting, hreply, Option.getD_some]
  rw [hstep]
  exact request?_mapRequest_self hr (fun r' => { r' with phase := .finished (r.task.settle reply) })
    fun _ => rfl

/-- A waiting request without a reply that is pending no more fails at its next step, as the session
did. -/
lemma request?_cutOff {r : Request} (hr : s.request? r.id = some r) {deadline : Instant}
    (hphase : r.phase = .waiting deadline) (hreply : r.reply = none) (hid : r.id ∉ s.pending)
    (now : Instant) :
    (s.step now (.request r.id)).request? r.id =
      some { r with phase := .finished (.error (s.crashed s.exitMessage)) } := by
  have hcontains : (!s.pending.contains r.id) = true := by simp [hid]
  have hstep : s.step now (.request r.id) =
      s.finish r.id (.error (s.crashed s.exitMessage)) now := by
    simp only [step, stepRequest, hr, hphase, stepWaiting, hreply, hcontains, if_true,
      Option.getD_some]
  rw [hstep]
  exact request?_mapRequest_self hr
    (fun r' => { r' with phase := .finished (.error (s.crashed s.exitMessage)) }) fun _ => rfl

end Session

end LintPool
