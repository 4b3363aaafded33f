import LintPool.Proofs.Json.Orderly
import LintPool.Proofs.Session.Replies
import LintPool.Proofs.Session.Works

set_option autoImplicit false

/-!
# The stopping waits for the requests under way

Whoever orders the stopping first, a caller, the watch or a request that was not answered in time,
begins it; from then on no request begins. The stopping goes on when no request is under way, or
when it has waited long enough. In the first case every request has come to its own result, or has
been given up by its caller, before the worker is asked to shut down, and nothing is asked of the
worker after that.

## Main definitions

* `LintPool.WriterOrder.asksFor` — what an order asks the worker for.
* `LintPool.Session.queued`, `LintPool.Session.shutdowns`, `LintPool.Session.admitted`,
  `LintPool.Session.givenUp`, `LintPool.Session.stopsBegun`, `LintPool.Session.drainsExpired` — what
  is noted at a moment.
* `LintPool.Session.Outcome` — what a request may come to.
* `LintPool.Ledger.Drained` — no request is under way, and none begins.

## Main results

* `LintPool.Session.drained_run` — a stopping that did not have to wait too long finds the requests
  over, and they stay so.
* `LintPool.Session.outcome_run` — a request that is over has come to its own result.
* `LintPool.Session.stopping_drains_first` — the stopping begins once at most, asks once at most,
  and does so after all requests.
-/

namespace LintPool

/-- Whether an order asks the worker for something. -/
def WriterOrder.asksFor (method : Method) : WriterOrder → Bool
  | .send frame => (frame.field? "method").bind Json.text? = some method.name
  | .close => false

/-- A frame names the method of its request. -/
lemma field_requestFrame (id : Nat) (method : Method) (params : Json) :
    (requestFrame id method params).field? "method" = some (.str method.name) := by
  simp only [requestFrame, Json.object, Json.sortFields, List.foldl_cons, List.foldl_nil,
    Json.field?, Json.lookup_setField]
  rw [if_neg (by decide), if_pos trivial]

/-- A frame asks for the method of its request, and for no other. -/
lemma WriterOrder.asksFor_requestFrame (id : Nat) (method : Method) (params : Json)
    (method' : Method) :
    (WriterOrder.send (requestFrame id method params)).asksFor method' =
      decide (method = method') := by
  rw [asksFor, field_requestFrame]
  cases method <;> cases method' <;> rfl

/-- A request that is over has a result. -/
lemma Request.exists_of_isFinished {r : Request} (h : r.isFinished = true) :
    ∃ result, r.phase = .finished result := by
  unfold isFinished at h
  split at h
  · exact ⟨_, ‹_›⟩
  · cases h

/-- No request is under way, and none begins. -/
structure Ledger.Drained (l : Ledger) : Prop where
  /-- The stopping has been ordered. -/
  disposed : l.disposed = true
  /-- All requests are over. -/
  finished : ∀ r ∈ l.requests, r.isFinished = true

namespace Session

variable {s : Session} {now : Instant} {e : Event}

/-! ## What is noted at a moment -/

/-- The orders that are queued at a moment. -/
def queued (s : Session) (m : Moment) : List WriterOrder :=
  (s.step m.now m.event).queue.drop s.queue.length

/-- The orders to ask the worker to shut down that are queued at a moment. -/
def shutdowns (s : Session) (m : Moment) : List WriterOrder :=
  (s.queued m).filter (·.asksFor .shutdown)

/-- The number of the request that begins at a moment. -/
def admitted (s : Session) (m : Moment) : List Nat :=
  match m.event with
  | .begin task params => (s.begin task params m.now).1.toOption.toList
  | _ => []

/-- The number of the request that its caller gives up at a moment. -/
def givenUp (s : Session) (m : Moment) : List Nat :=
  match m.event with
  | .abandoned id => if (s.request? id).isSome then [id] else []
  | _ => []

/-- A moment at which a stopping begins: not by a step of its own it is somewhere else than
before. -/
def stopsBegun (s : Session) (m : Moment) : List Moment :=
  match m.event with
  | .stopping => []
  | _ => if (s.step m.now m.event).works.phase = s.works.phase then [] else [m]

/-- A moment at which the stopping goes on though requests are under way, because it has waited long
enough. -/
def drainsExpired (s : Session) (m : Moment) : List Moment :=
  match m.event, s.works.phase with
  | .stopping, some (.draining deadline) =>
    if s.inFlight ≠ 0 ∧ deadline.nanos ≤ m.now.nanos then [m] else []
  | _, _ => []

/-- What the request of a number for some task may come to, by what has come about so far. -/
inductive Outcome (first : Session) (ms : List Moment) (id : Nat) (task : Task) :
    CallResult → Prop where
  /-- A response with its number was handed out. -/
  | answered (reply : Reply) (h : (id, reply) ∈ first.heard ms) :
    Outcome first ms id task (task.settle reply)
  /-- It was not answered in time. -/
  | timedOut : Outcome first ms id task (.error (first.crashed (first.timeoutMessage task)))
  /-- The worker's input was closed. -/
  | inputClosed : Outcome first ms id task (.error (first.crashed "worker stdin closed"))
  /-- The worker had gone, as far as that was known then. -/
  | crashed (earlier : List Moment) (h : earlier <+: ms) :
    Outcome first ms id task (.error (first.crashed (first.run earlier).exitMessage))

/-! ## The stopping begins once -/

/-- **The stopping begins once at most**: where it begins it was not there before, and it is there
after. -/
lemma stopsBegun_run (hs : s.ledger.Sound) (ms : List Moment) :
    (s.log stopsBegun ms).length ≤ 1 := by
  refine (log_once (n := 0) (fun s m hs => ?_) hs ms).1
  have hcases := (act_step s m.now m.event).phase_cases
  unfold stopsBegun
  split
  · exact .inl rfl
  · rename_i hevent
    split
    · exact .inl rfl
    · rename_i hchanged
      rcases hcases with hsame | ⟨hdisposed, deadline, hnew⟩ | ⟨he, -⟩
      · exact absurd hsame.1 hchanged
      · refine .inr ⟨⟨m, rfl⟩, ?_, _, hnew, Nat.zero_le _⟩
        rintro ⟨phase, hphase, -⟩
        obtain ⟨t, ht, -⟩ := exists_stopping hphase
        cases ht.symm.trans (hs.ordered hdisposed)
      · exact absurd he hevent

/-! ## Orders that are queued -/

/-- At a moment nothing is queued, or the frame of a request that is about to be queued, or the
request to shut down, or the order to close the input. -/
lemma queued_cases (s : Session) (m : Moment) :
    s.queued m = [] ∨
      (∃ r, s.request? r.id = some r ∧ r.phase = .sending ∧
        s.queued m = [.send (requestFrame r.id r.task.method r.params)]) ∨
      (∃ t id deadline, s.stopping = some t ∧ t.phase = .sending ∧
        s.queued m = [.send (requestFrame id .shutdown .null)] ∧
        (s.step m.now m.event).works.phase = some (.waiting deadline)) ∨
      s.queued m = [.close] := by
  obtain ⟨now, e⟩ := m
  have hact := act_step s now e
  have hqueue : s.queued ⟨now, e⟩ = (s.step now e).works.queue.drop s.queue.length := rfl
  simp only [hqueue]
  generalize (s.step now e).works = w at hact ⊢
  cases hact with
  | sent r hr hphase _ _ => exact .inr (.inl ⟨r, hr, hphase, List.drop_left⟩)
  | stopped t ht hstop =>
    cases hstop with
    | asked hphase id _ _ _ deadline =>
      exact .inr (.inr (.inl ⟨t, id, deadline, ht, hphase, List.drop_left, rfl⟩))
    | closed _ _ _ => exact .inr (.inr (.inr List.drop_left))
    | _ => exact .inl List.drop_length
  | taken _ _ _ hqueued => exact .inl (List.drop_eq_nil_of_le (by rw [hqueued]; simp))
  | toldToClose _ _ _ => exact .inl List.drop_nil
  | broken _ _ _ => exact .inl List.drop_nil
  | _ => exact .inl (List.drop_length)

/-- At a moment the worker is not asked to shut down, or it is by a stopping that is about to. -/
lemma shutdowns_cases (s : Session) (m : Moment) :
    s.shutdowns m = [] ∨ (∃ o, s.shutdowns m = [o]) ∧ s.works.phase = some .sending ∧
      ∃ deadline, (s.step m.now m.event).works.phase = some (.waiting deadline) := by
  unfold shutdowns
  rcases queued_cases s m with
    hnone | ⟨r, -, -, hsent⟩ | ⟨t, id, deadline, ht, hphase, hasked, hnow⟩ | hclosed
  · exact .inl (by rw [hnone]; rfl)
  · -- The frame of a request asks for its task.
    have hother : (WriterOrder.send (requestFrame r.id r.task.method r.params)).asksFor .shutdown =
        false := by
      rw [WriterOrder.asksFor_requestFrame]
      cases r.task <;> rfl
    exact .inl (by rw [hsent, List.filter_cons, hother]; rfl)
  · refine .inr ⟨⟨.send (requestFrame id .shutdown .null), ?_⟩, hphase ▸ works_phase ht, deadline,
      hnow⟩
    rw [hasked, List.filter_cons, WriterOrder.asksFor_requestFrame]
    rfl
  · exact .inl (by rw [hclosed]; rfl)

/-- **The worker is asked to shut down once at most**: the stopping is past that after it. -/
lemma shutdowns_run (hs : s.ledger.Sound) (ms : List Moment) :
    (s.log shutdowns ms).length ≤ 1 := by
  refine (log_once (n := 3) (fun s m _ => ?_) hs ms).1
  rcases shutdowns_cases s m with hnone | ⟨hasked, hphase, deadline, hnow⟩
  · exact .inl hnone
  · refine .inr ⟨hasked, ?_, _, hnow, by simp [StopPhase.rank]⟩
    rintro ⟨phase, hphase', hrank⟩
    cases hphase.symm.trans hphase'
    exact absurd hrank (by decide)

/-! ## No request is under way -/

/-- Nothing is under way when all requests are over. -/
lemma inFlight_eq_zero_iff (s : Session) :
    s.inFlight = 0 ↔ ∀ r ∈ s.requests, r.isFinished = true := by
  simp [inFlight]

/-- When no request is under way and none begins, that stays so. -/
lemma drained_move {l : Ledger} (hd : s.ledger.Drained) (h : Move s now e l) :
    l.Drained := by
  obtain ⟨hdisposed, hfinished⟩ := hd
  have hturn {r : Request} (hr : s.request? r.id = some r) {phase : RequestPhase}
      {pending : List Nat} (hturn : Turn s now r phase pending) : False := by
    obtain ⟨result, hover⟩ := Request.exists_of_isFinished (hfinished r (mem_of_request? hr).1)
    exact hturn.not_finished result hover
  cases h with
  | begun _ _ hdown =>
    rw [isDown, show s.disposed = true from hdisposed] at hdown
    cases hdown
  | turned r hr h => exact (hturn hr h).elim
  | stoppedBy r hr h _ _ => exact (hturn hr h).elim
  | abandoned id => exact ⟨hdisposed, fun r hr => hfinished r (List.mem_filter.1 hr).1⟩
  | answered id reply _ _ =>
    refine ⟨hdisposed, fun r hr => ?_⟩
    rcases mem_mapRequest hr with ⟨hmem, -⟩ | ⟨r', hmem, -, rfl⟩
    · exact hfinished r hmem
    · exact hfinished r' hmem
  | disposed _ _ hnot _ => cases hnot.symm.trans hdisposed
  | _ => exact ⟨hdisposed, hfinished⟩

/-- The stopping does not leave off waiting as long as requests are under way and there is time. -/
lemma StopAct.drained_or_due {t : Stopping} {w : Works} (h : StopAct s now t w)
    {deadline : Instant} (hphase : t.phase = .draining deadline) :
    s.inFlight = 0 ∨ deadline.nanos ≤ now.nanos := by
  cases h with
  | numbered h hover _ => cases hphase.symm.trans h; exact hover
  | spared h hover _ => cases hphase.symm.trans h; exact hover
  | unnumbered h _ => rw [hphase] at h; exact absurd h.1 (by simp [StopPhase.rank])
  | letGo h _ _ => rw [hphase] at h; exact absurd h (by simp [StopPhase.rank])
  | _ => cases hphase.symm.trans ‹t.phase = _›

/-- A stopping that goes on without having waited too long finds no request under way. -/
lemma drained_step (hs : s.ledger.Sound) (m : Moment) (hin : s.drainsExpired m = [])
    (hbefore : ∀ phase, s.works.phase = some phase → 1 ≤ phase.rank → s.ledger.Drained)
    {phase : StopPhase} (hphase : (s.step m.now m.event).works.phase = some phase)
    (hrank : 1 ≤ phase.rank) : (s.step m.now m.event).ledger.Drained := by
  suffices hdrained : s.ledger.Drained from drained_move hdrained (move_step s m.now m.event)
  rcases (act_step s m.now m.event).phase_cases with
    hsame | ⟨-, deadline, hnew⟩ | ⟨hevent, t, ht, hstop⟩
  · exact hbefore phase (hsame.1.symm.trans hphase) hrank
  · cases hphase.symm.trans hnew
    cases hrank
  · have hworks := works_phase ht
    cases hp : t.phase with
    | draining deadline =>
      have hempty : s.inFlight = 0 := by
        by_contra hbusy
        have hdue := (hstop.drained_or_due hp).resolve_left hbusy
        rw [hp] at hworks
        simp only [drainsExpired, hevent, hworks, if_pos (And.intro hbusy hdue)] at hin
        cases hin
      refine ⟨?_, (inFlight_eq_zero_iff s).1 hempty⟩
      by_contra hdisposed
      cases ht.symm.trans (hs.ordered (Bool.eq_false_iff.2 hdisposed))
    | _ => exact hbefore _ hworks (by rw [hp]; simp [StopPhase.rank])

/-- **A stopping that did not have to wait too long finds the requests over**, and so they stay. -/
lemma drained_run (hs : s.ledger.Sound) (hnone : s.stopping = none) (ms : List Moment)
    (hin : s.log drainsExpired ms = []) {phase : StopPhase}
    (hphase : (s.run ms).works.phase = some phase) (hrank : 1 ≤ phase.rank) :
    (s.run ms).ledger.Drained := by
  induction ms using List.reverseRecOn generalizing phase with
  | nil =>
    rw [run, List.foldl_nil, works, hnone] at hphase
    cases hphase
  | append_singleton ms m ih =>
    rw [log_concat, List.append_eq_nil_iff] at hin
    rw [run_concat] at hphase ⊢
    exact drained_step (sound_run hs ms) m hin.2 (fun _ => ih hin.1) hphase hrank

/-- Once the stopping has been ordered, no request begins. -/
lemma admitted_of_disposed (hdisposed : s.disposed = true) (m : Moment) : s.admitted m = [] := by
  unfold admitted
  split
  · simp only [Session.begin, isDown, hdisposed]
    rfl
  · rfl

/-- Once no request is under way, none begins any more, and none is queued. -/
lemma quiet_after_drained (hd : s.ledger.Drained) (ms : List Moment) :
    s.log admitted ms = [] ∧
      ∀ o ∈ s.log queued ms, o.asksFor .lint = false ∧ o.asksFor .resolve = false := by
  induction ms generalizing s with
  | nil => exact ⟨rfl, fun _ ho => absurd ho List.not_mem_nil⟩
  | cons m ms ih =>
    obtain ⟨hadmitted, hqueued⟩ := ih (drained_move hd (move_step s m.now m.event))
    refine ⟨?_, fun o ho => ?_⟩
    · rw [log, admitted_of_disposed hd.disposed m, hadmitted]
      rfl
    · rcases List.mem_append.1 ho with hnow | hlater
      · rcases queued_cases s m with
          hnone | ⟨r, hr, hphase, -⟩ | ⟨t, id, deadline, -, -, hasked, -⟩ | hclosed
        · rw [hnone] at hnow
          cases hnow
        · have hover := hd.finished r (mem_of_request? hr).1
          rw [Request.isFinished, hphase] at hover
          cases hover
        · rw [hasked, List.mem_singleton] at hnow
          rw [hnow, WriterOrder.asksFor_requestFrame, WriterOrder.asksFor_requestFrame]
          exact ⟨rfl, rfl⟩
        · rw [hclosed, List.mem_singleton] at hnow
          rw [hnow]
          exact ⟨rfl, rfl⟩
      · exact hqueued o hlater

/-! ## What requests come to -/

/-- What a request has come to by a run, it has come to by a longer one. -/
lemma Outcome.concat {first : Session} {ms : List Moment} {id : Nat} {task : Task}
    {result : CallResult} (h : Outcome first ms id task result) (m : Moment) :
    Outcome first (ms ++ [m]) id task result := by
  cases h with
  | answered reply h =>
    exact .answered reply (by rw [heard_concat]; exact List.mem_append_left _ h)
  | timedOut => exact .timedOut
  | inputClosed => exact .inputClosed
  | crashed earlier h => exact .crashed earlier (h.trans (List.prefix_append _ _))

/-- What a request holds has come about: its reply has been handed out, and its result is one of its
outcomes. -/
structure Explained (first : Session) (ms : List Moment) (r : Request) : Prop where
  /-- Its reply was handed out with its number. -/
  replied : ∀ reply, r.reply = some reply → (r.id, reply) ∈ first.heard ms
  /-- Its result is one of its outcomes. -/
  ended : ∀ result, r.phase = .finished result → Outcome first ms r.id r.task result

/-- What has come about by a run has come about by a longer one. -/
lemma Explained.concat {first : Session} {ms : List Moment} {r : Request}
    (h : Explained first ms r) (m : Moment) : Explained first (ms ++ [m]) r where
  replied reply hreply := by
    rw [heard_concat]
    exact List.mem_append_left _ (h.replied reply hreply)
  ended result hresult := (h.ended result hresult).concat m

/-- What a step of a request makes of it has come about. -/
lemma explained_turned {first : Session} {ms : List Moment} {r : Request}
    (h : Explained first ms r) {phase : RequestPhase} {pending : List Nat}
    (hturn : Turn (first.run ms) now r phase pending) :
    Explained first ms { r with phase } := by
  obtain ⟨hroot, -⟩ := settings_run first ms
  refine ⟨h.replied, fun result hresult => ?_⟩
  have hphase : phase = .finished result := hresult
  subst hphase
  have hcrashed (message : String) : (first.run ms).crashed message = first.crashed message := by
    rw [crashed, hroot, crashed]
  cases hturn with
  | settled _ hreply => exact .answered _ (h.replied _ hreply)
  | cutOff _ _ _ =>
    rw [hcrashed]
    exact .crashed ms (List.prefix_refl _)
  | withdrew hphase =>
    rename_i cause
    rw [hcrashed]
    cases cause with
    | sessionOver => exact .crashed ms (List.prefix_refl _)
    | inputClosed => exact .inputClosed
    | timedOut =>
      rw [withdrawalMessage, timeoutMessage_run]
      exact .timedOut

/-- What a moment leaves of a request has come about. -/
lemma explained_fate {first : Session} {ms : List Moment} {r r' : Request}
    (h : Explained first ms r) (hfate : Fate (first.run ms) now r e (some r')) :
    Explained first (ms ++ [⟨now, e⟩]) r' := by
  cases hfate with
  | kept _ _ => exact h.concat _
  | turned hturn => exact (explained_turned h hturn).concat _
  | answered _ reply hhanded _ =>
    refine ⟨fun reply' hreply' => ?_, (h.concat _).ended⟩
    cases hreply'
    rw [heard_concat, hhanded]
    exact List.mem_append_right _ (List.mem_singleton.2 rfl)

/-- A request that begins is there. -/
lemma request?_admitted (hs : s.ledger.Sound) {m : Moment} {id : Nat} (h : id ∈ s.admitted m) :
    ∃ task params,
      (s.step m.now m.event).request? id = some ⟨id, task, params, none, .registering⟩ := by
  obtain ⟨now, event⟩ := m
  cases event with
  | begin task params =>
    simp only [admitted, Session.begin] at h
    simp only [step, Session.begin]
    split at h
    · cases h
    · rename_i hdown
      have hid : id = s.nextId := List.mem_singleton.1 h
      subst hid
      refine ⟨task, params, ?_⟩
      have hnew : s.requests.find? (·.id = s.nextId) = none := by
        rw [List.find?_eq_none]
        intro r hr hid
        exact Nat.ne_of_lt (hs.below r hr) (of_decide_eq_true hid)
      rw [if_neg hdown, request?, List.find?_append, hnew]
      simp
  | _ => cases h

/-- A request that is there stays, unless its caller gives it up. -/
lemma givenUp_of_gone {r : Request} (hr : s.request? r.id = some r) {ms : List Moment}
    (hgone : (s.run ms).request? r.id = none) : r.id ∈ s.log givenUp ms := by
  induction ms generalizing s r with
  | nil => cases hr.symm.trans hgone
  | cons m ms ih =>
    obtain ⟨now, event⟩ := m
    have hfate := fate_step hr now event
    cases hnow : (s.step now event).request? r.id with
    | some r' =>
      have hid : r'.id = r.id := (mem_of_request? hnow).2
      rw [← hid] at hnow hgone ⊢
      exact List.mem_append_right _ (ih hnow hgone)
    | none =>
      rw [hnow] at hfate
      cases hfate
      exact List.mem_append_left _ (by simp [givenUp, hr])

/-- **A request that is over has come to its own result**: throughout a run every request that has
begun is there and holds only what has come about, unless its caller has given it up. -/
lemma outcome_run (hs : s.ledger.Sound) {ms : List Moment} {id : Nat}
    (h : id ∈ s.log admitted ms) :
    id ∈ s.log givenUp ms ∨ ∃ r, (s.run ms).request? id = some r ∧ Explained s ms r := by
  obtain ⟨before, m, after, rfl, hadmitted⟩ := mem_log h
  have hbase := sound_run hs (before ++ [m])
  obtain ⟨task, params, hr⟩ := request?_admitted (sound_run hs before) hadmitted
  rw [← run_concat] at hr
  have hsplit : before ++ m :: after = (before ++ [m]) ++ after := by simp
  rw [hsplit, log_append, run_append s (before ++ [m]) after]
  cases hlast : ((s.run (before ++ [m])).run after).request? id with
  | none =>
    refine .inl (List.mem_append_right _ ?_)
    exact givenUp_of_gone (r := ⟨id, task, params, none, .registering⟩) hr hlast
  | some r =>
    refine .inr ⟨r, rfl, request_run (r := ⟨id, task, params, none, .registering⟩) hbase hr
      (P := fun ms => Explained s (before ++ [m] ++ ms)) ⟨by simp, by simp⟩ ?_ after r hlast⟩
    intro ms now e r₁ r₂ _ _ hexplained hfate
    rw [← run_append] at hfate
    rw [← List.append_assoc]
    exact explained_fate hexplained hfate

/-! ## The stopping drains first -/

/-- **The stopping waits for the requests under way.** Throughout every run, whoever orders the
stopping and in whatever order the tasks go on:

* the stopping begins once at most;
* the worker is asked to shut down once at most;
* if the stopping never goes on because it has waited long enough, then, when the worker is asked to
  shut down, every request that ever begins is over and has come to its own result, or has been
  given up by its caller; and from then on nothing is asked of the worker. -/
theorem stopping_drains_first (root : Path) (requestTimeout idleTimeout : Span) (began : Instant)
    (ms : List Moment) :
    let first := start root requestTimeout idleTimeout began
    (first.log stopsBegun ms).length ≤ 1 ∧
      (first.log shutdowns ms).length ≤ 1 ∧
      (first.log drainsExpired ms = [] → ∀ before m after, ms = before ++ m :: after →
        let s := first.run before
        s.shutdowns m ≠ [] →
          (∀ id ∈ first.log admitted ms,
            id ∈ first.log givenUp before ∨
              ∃ r result, s.request? id = some r ∧ r.phase = .finished result ∧
                Outcome first before id r.task result) ∧
          ∀ o ∈ (s.step m.now m.event).log queued after,
            o.asksFor .lint = false ∧ o.asksFor .resolve = false) := by
  intro first
  have hfirst : first.ledger.Sound := sound_start root requestTimeout idleTimeout began
  refine ⟨stopsBegun_run hfirst ms, shutdowns_run hfirst ms, ?_⟩
  rintro hin before m after rfl s hasks
  have hs : s.ledger.Sound := sound_run hfirst before
  have hdrained : s.ledger.Drained := by
    obtain ⟨-, hphase, -⟩ := (shutdowns_cases s m).resolve_left hasks
    rw [log_append, List.append_eq_nil_iff] at hin
    exact drained_run hfirst rfl before hin.1 hphase (by decide)
  refine ⟨fun id hid => ?_, ?_⟩
  · have hbefore : id ∈ first.log admitted before := by
      have hnone := (quiet_after_drained hdrained (m :: after)).1
      rw [log_append, hnone, List.append_nil] at hid
      exact hid
    refine (outcome_run hfirst hbefore).imp_right ?_
    rintro ⟨r, hr, hexplained⟩
    obtain ⟨hmem, hrid⟩ := mem_of_request? hr
    obtain ⟨result, hresult⟩ := Request.exists_of_isFinished (hdrained.finished r hmem)
    exact ⟨r, result, hr, hresult, hrid ▸ hexplained.ended result hresult⟩
  · exact (quiet_after_drained (drained_move hdrained (move_step s m.now m.event)) after).2

/-- A caller orders the stopping while a request is under way; another request is refused, and the
first is answered. -/
def farewell : List Moment :=
  atOnce [.begin .lint .null, .request 1, .request 1, .request 1, .writer, .dispose, .stopping,
    .begin .resolve .null, .output (Text.encode "Content-Length:8\r\n\r\n\x7b\"id\":1\x7d"),
    .reader, .request 1, .stopping, .stopping]

/-- The request under way has its result before the worker is asked to shut down. -/
theorem stopping_drains_first_farewell :
    1 ∈ sample.log admitted (farewell ++ [⟨⟨0⟩, .stopping⟩]) ∧
      ∃ r result, (sample.run farewell).request? 1 = some r ∧ r.phase = .finished result ∧
        Outcome sample farewell 1 r.task result := by
  obtain ⟨hin, hasks, hid, hkept⟩ :
      (sample.log drainsExpired (farewell ++ [⟨⟨0⟩, .stopping⟩])).isEmpty = true ∧
      ((sample.run farewell).shutdowns ⟨⟨0⟩, .stopping⟩).isEmpty = false ∧
      1 ∈ sample.log admitted (farewell ++ [⟨⟨0⟩, .stopping⟩]) ∧
      1 ∉ sample.log givenUp farewell := by
    decide +kernel
  obtain ⟨-, -, hfirst⟩ := stopping_drains_first ⟨"/root"⟩ (.ofSeconds 60) ⟨0⟩ ⟨0⟩
    (farewell ++ [⟨⟨0⟩, .stopping⟩])
  obtain ⟨hover, -⟩ := hfirst (List.isEmpty_iff.1 hin) farewell ⟨⟨0⟩, .stopping⟩ [] rfl
    (List.isEmpty_eq_false_iff.1 hasks)
  exact ⟨hid, (hover 1 hid).resolve_left hkept⟩

end Session

end LintPool
