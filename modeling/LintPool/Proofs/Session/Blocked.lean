import LintPool.Proofs.Session.Held
import LintPool.Proofs.Session.Pipe

set_option autoImplicit false

/-!
# Where a session is blocked

There is room for few orders, and a writer whose frame the pipe does not take writes no other. What
a session can do without the worker program, and without its callers, is then cut short in two ways:
no order can be given any more, or fewer than the stopping has yet to give before it takes charge of
the program.

## Main definitions

* `LintPool.Works.leftOver` — the orders that are never written if the program reads nothing.
* `LintPool.Works.Choked` — no order can be given any more.
* `LintPool.Works.Clears` — the stopping can give all its orders.

## Main results

* `LintPool.Piped.choked_step`, `LintPool.Piped.crowded_step` — both are for good.
* `LintPool.Piped.sending_of_choked_reaches`, `LintPool.Piped.phase_of_choked_reaches` — who is
  about to give an order then never does.
* `LintPool.Piped.crowded_reaches` — the worker program then neither ends nor is killed.
-/

namespace LintPool

namespace Works

/-! ## The orders that are never written -/

/-- The orders that are never written if the worker program reads nothing, when there is so much
room in the pipe and so many bytes are left of the frame that the writer holds: the first frame for
which there is no room, and all orders after it. What comes after the order to close the input is
not heard. -/
def leftOver : List WriterOrder → (room bytes : Nat) → Nat
  | [], room, bytes => if room < bytes then 1 else 0
  | .send frame :: rest, room, bytes =>
    if room < bytes then rest.length + 2 else leftOver rest (room - bytes) (frameOf frame).length
  | .close :: rest, room, bytes => if room < bytes then rest.length + 2 else 0

/-- When there is no room for the frame at hand, no order is written. -/
lemma leftOver_of_lt {room bytes : Nat} (h : room < bytes) (queue : List WriterOrder) :
    leftOver queue room bytes = queue.length + 1 := by
  match queue with
  | [] => exact if_pos h
  | .send _ :: _ => exact if_pos h
  | .close :: _ => exact if_pos h

/-- When there is, the next order is a matter of what room is left. -/
lemma leftOver_send {room bytes : Nat} (h : bytes ≤ room) (frame : Json)
    (rest : List WriterOrder) :
    leftOver (.send frame :: rest) room bytes =
      leftOver rest (room - bytes) (frameOf frame).length :=
  if_neg (Nat.not_lt.2 h)

/-- No more orders are left over than there are. -/
lemma leftOver_le (queue : List WriterOrder) (room bytes : Nat) :
    leftOver queue room bytes ≤ queue.length + 1 := by
  induction queue generalizing room bytes with
  | nil =>
    rw [leftOver]
    split <;> simp
  | cons o rest ih =>
    cases o with
    | send frame =>
      rw [leftOver]
      split
      · exact Nat.le_refl _
      · exact Nat.le_succ_of_le (ih _ _)
    | close =>
      rw [leftOver]
      split
      · exact Nat.le_refl _
      · exact Nat.zero_le _

/-- One order more leaves over at most one more, and exactly one if some are left over already. -/
lemma leftOver_append (queue : List WriterOrder) (o : WriterOrder) (room bytes : Nat) :
    leftOver (queue ++ [o]) room bytes ≤ leftOver queue room bytes + 1 ∧
      (0 < leftOver queue room bytes →
        leftOver (queue ++ [o]) room bytes = leftOver queue room bytes + 1) := by
  by_cases hlt : room < bytes
  · rw [leftOver_of_lt hlt, leftOver_of_lt hlt, List.length_append]
    exact ⟨Nat.le_refl _, fun _ => rfl⟩
  · rw [Nat.not_lt] at hlt
    induction queue generalizing room bytes with
    | nil =>
      have hnone : leftOver [] room bytes = 0 := if_neg (Nat.not_lt.2 hlt)
      rw [hnone, List.nil_append]
      refine ⟨?_, fun h => absurd h (Nat.lt_irrefl 0)⟩
      cases o with
      | send frame =>
        rw [leftOver_send hlt]
        exact leftOver_le [] _ _
      | close => exact (Nat.le_of_eq (if_neg (Nat.not_lt.2 hlt))).trans (Nat.zero_le _)
    | cons o' rest ih =>
      cases o' with
      | send frame =>
        rw [List.cons_append, leftOver_send hlt, leftOver_send hlt]
        by_cases hnext : room - bytes < (frameOf frame).length
        · rw [leftOver_of_lt hnext, leftOver_of_lt hnext, List.length_append]
          exact ⟨Nat.le_refl _, fun _ => rfl⟩
        · exact ih _ _ (Nat.not_lt.1 hnext)
      | close =>
        have hnone (rest : List WriterOrder) : leftOver (.close :: rest) room bytes = 0 :=
          if_neg (Nat.not_lt.2 hlt)
        rw [List.cons_append, hnone, hnone]
        exact ⟨Nat.zero_le _, fun h => absurd h (Nat.lt_irrefl 0)⟩

/-- It makes no difference how much of the frame at hand has gone into the pipe already. -/
lemma leftOver_sub {room bytes n : Nat} (hroom : n ≤ room) (hbytes : n ≤ bytes)
    (queue : List WriterOrder) :
    leftOver queue (room - n) (bytes - n) = leftOver queue room bytes := by
  by_cases hlt : room < bytes
  · rw [leftOver_of_lt hlt, leftOver_of_lt (by omega)]
  · have hle : ¬ room - n < bytes - n := by omega
    have hleft : room - n - (bytes - n) = room - bytes := by omega
    match queue with
    | [] => rw [leftOver, leftOver, if_neg hlt, if_neg hle]
    | .send frame :: rest => rw [leftOver, leftOver, if_neg hlt, if_neg hle, hleft]
    | .close :: rest => rw [leftOver, leftOver, if_neg hlt, if_neg hle]

/-! ## Choked and crowded works -/

/-- The orders that the stopping has yet to give. It asks the worker to shut down unless it is known
by then that the worker's output has ended; the reader sees to that unless it has to wait for more
output. -/
def ordersLeft (w : Works) : Nat :=
  match w.phase with
  | some (.draining _) => if w.reader.isHearing then 2 else 1
  | some .registering | some .sending => 2
  | some (.waiting _) | some .withdrawing | some .closing => 1
  | _ => 0

/-- The orders that are never written if the worker program reads nothing, and those that the
stopping has yet to give. -/
def load (w : Works) (room : Nat) : Nat :=
  leftOver w.queue room w.writer.unwritten + w.ordersLeft

/-- No order can be given any more when there is so much room in the pipe: the pipe does not take
the frame that the writer holds, there is no room among the orders, and the stopping is not so far
that it could do without. -/
structure Choked (w : Works) (room : Nat) : Prop where
  /-- There is no room for the frame that the writer holds. -/
  held : room < w.writer.unwritten
  /-- There is no room among the orders. -/
  full : queueCapacity ≤ w.queue.length
  /-- The worker program lives. -/
  living : w.ending = none
  /-- The stopping, if it has begun, has not given its last order. -/
  early : ∀ phase, w.phase = some phase → phase.rank ≤ 5

/-- The stopping can give all its orders when there is so much room in the pipe. -/
def Clears (w : Works) (room : Nat) : Prop :=
  w.writer = .over ∨ w.load room ≤ queueCapacity + 1

/-- The worker program lives, and the stopping cannot give all its orders. -/
structure Crowded (w : Works) (room : Nat) : Prop where
  /-- The worker program lives. -/
  living : w.ending = none
  /-- The stopping has more orders to give than there is room for. -/
  blocked : ¬ w.Clears room

/-- A stopping that has given its last order has none left to give. -/
lemma ordersLeft_eq_zero {w : Works} {phase : StopPhase} (hphase : w.phase = some phase)
    (hrank : 6 ≤ phase.rank) : w.ordersLeft = 0 := by
  unfold ordersLeft
  rw [hphase]
  cases phase with
  | draining _ => exact absurd hrank (by simp [StopPhase.rank])
  | registering => exact absurd hrank (by decide)
  | sending => exact absurd hrank (by decide)
  | waiting _ => exact absurd hrank (by simp [StopPhase.rank])
  | withdrawing => exact absurd hrank (by decide)
  | closing => exact absurd hrank (by decide)
  | _ => rfl

/-- Of the reader it matters only whether it waits for output. -/
lemma load_congr {w w' : Works} {room : Nat} (hqueue : w.queue = w'.queue)
    (hwriter : w.writer = w'.writer) (hphase : w.phase = w'.phase)
    (hhearing : w.reader.isHearing = w'.reader.isHearing) : w.load room = w'.load room := by
  rw [load, load, ordersLeft, ordersLeft, hqueue, hwriter, hphase, hhearing]

/-- The stopping gives two orders at most. -/
lemma ordersLeft_le_two (w : Works) : w.ordersLeft ≤ 2 := by
  unfold ordersLeft
  split
  · split <;> omega
  all_goals omega

/-- There is always room for the orders of which none are left. -/
lemma Steady.clears {w : Works} (hw : w.Steady) (hleft : w.ordersLeft = 0) (room : Nat) :
    w.Clears room := by
  have hroom := hw.room
  have hle := leftOver_le w.queue room w.writer.unwritten
  refine .inr ?_
  rw [load, hleft]
  omega

/-- When the worker program lives and the writer goes on, it is a matter of numbers whether the
stopping can give all its orders. -/
lemma crowded_of {w : Works} {room : Nat} (hliving : w.ending = none) (hopen : w.writer ≠ .over)
    (hmany : queueCapacity + 1 < w.load room) : w.Crowded room :=
  ⟨hliving, not_or.2 ⟨hopen, Nat.not_le.2 hmany⟩⟩

/-- Where the stopping cannot give all its orders, the writer goes on, and there are too many. -/
lemma Crowded.spelled {w : Works} {room : Nat} (hc : w.Crowded room) :
    w.writer ≠ .over ∧ queueCapacity + 1 < w.load room := by
  obtain ⟨hopen, hmany⟩ := not_or.1 hc.blocked
  exact ⟨hopen, Nat.not_le.1 hmany⟩

/-- Where there are too many, some are left over already. -/
lemma leftOver_pos {w : Works} {room : Nat} (hmany : queueCapacity + 1 < w.load room) :
    0 < leftOver w.queue room w.writer.unwritten := by
  have hleft := w.ordersLeft_le_two
  rw [load, queueCapacity] at hmany
  omega

/-- A stopping that has more orders to give than there is room for has not given its last. -/
lemma Crowded.early {w : Works} {room : Nat} (hc : w.Crowded room) (hw : w.Steady)
    {phase : StopPhase} (hphase : w.phase = some phase) : ¬ 6 ≤ phase.rank :=
  fun hrank => hc.blocked (hw.clears (ordersLeft_eq_zero hphase hrank) room)

end Works

namespace Session

variable {s : Session} {now : Instant} {e : Event} {w : Works} {room : Nat}

/-! ## No order can be given -/

/-- Whoever is choked has a writer that waits. -/
lemma isHeld_of_choked (hc : s.works.Choked room) : s.writer.isHeld = true :=
  Writer.isHeld_iff.2 (Nat.zero_lt_of_lt hc.held)

/-- **Nothing from inside a session** makes way for orders when none can be given. -/
theorem choked_act (h : Act s now e w) (he : e.isOutside = false) (hc : s.works.Choked room) :
    w.Choked room := by
  obtain ⟨b, rest, hwriter⟩ := Writer.exists_of_isHeld (isHeld_of_choked hc)
  have hroom : ¬ s.queue.length < queueCapacity := Nat.not_lt.2 hc.full
  have hopen (hover : s.writerOver = true) : False := by
    cases hwriter.symm.trans ((writerOver_iff s).1 hover)
  cases h with
  | sent _ _ _ _ h => exact absurd h hroom
  | begun _ _ _ => exact ⟨hc.held, hc.full, hc.living, by rintro _ ⟨⟩; simp [StopPhase.rank]⟩
  | stopped t ht hstop =>
    have hearly := hc.early t.phase (works_phase ht)
    cases hstop with
    | asked _ _ _ _ h _ => exact absurd h hroom
    | refused _ _ h => exact (hopen h).elim
    | closed _ _ h => exact absurd h hroom
    | closedBefore _ h => exact (hopen h).elim
    | tookCharge h _ _ => rw [h] at hearly; exact absurd hearly (by decide)
    | outwaited h _ => rw [h] at hearly; exact absurd hearly (by simp [StopPhase.rank])
    | letGo h _ _ => exact absurd (Nat.le_trans h hearly) (by decide)
    | _ => exact ⟨hc.held, hc.full, hc.living, by rintro _ ⟨⟩; simp [StopPhase.rank]⟩
  | taken _ _ h _ => cases hwriter.symm.trans h
  | toldToClose _ h _ => cases hwriter.symm.trans h
  | written h => cases hwriter.symm.trans h
  | accepted _ _ _ => cases he
  | broken _ _ _ => cases he
  | ended _ _ => cases he
  | _ => exact ⟨hc.held, hc.full, hc.living, hc.early⟩

/-- No order is queued. -/
lemma enqueue?_of_choked (hc : s.works.Choked room) (o : WriterOrder) :
    s.writerOver = false ∧ s.enqueue? o = none := by
  obtain ⟨b, rest, hwriter⟩ := Writer.exists_of_isHeld (isHeld_of_choked hc)
  exact ⟨by rw [writerOver, hwriter], if_neg (Nat.not_lt.2 hc.full)⟩

/-- A request that is about to be queued cannot be. -/
lemma stepRequest_of_choked (hc : s.works.Choked room) {id : Nat} {r : Request}
    (hr : s.request? id = some r) (hphase : r.phase = .sending) (now : Instant) :
    s.stepRequest id now = none := by
  obtain ⟨hopen, hfull⟩ :=
    enqueue?_of_choked hc (.send (requestFrame r.id r.task.method r.params))
  simp [stepRequest, hr, hphase, stepSending, hopen, hfull]

/-- A stopping that is about to give an order cannot. -/
lemma stepStopping_of_choked (hc : s.works.Choked room) (hw : s.works.Steady) {phase : StopPhase}
    (hphase : s.works.phase = some phase) (hgives : phase = .sending ∨ phase = .closing)
    (now : Instant) : s.stepStopping now = none := by
  obtain ⟨t, ht, rfl⟩ := exists_stopping hphase
  rcases hgives with hsending | hclosing
  · -- The request to shut down has a number, so its order waits for room.
    have hnumber := hw.numbered t.phase hphase (by rw [hsending]; decide) (by rw [hsending]; decide)
    have hid : s.works.number = t.id := by rw [works, ht]; rfl
    rw [hid] at hnumber
    obtain ⟨id, hid⟩ := Option.isSome_iff_exists.1 hnumber
    obtain ⟨hopen, hfull⟩ := enqueue?_of_choked hc (.send (requestFrame id .shutdown .null))
    simp [stepStopping, ht, hsending, hid, stepShutdownSending, hopen, hfull]
  · obtain ⟨hopen, hfull⟩ := enqueue?_of_choked hc .close
    simp [stepStopping, ht, hclosing, stepClosing, hopen, hfull]

/-- A request that is about to be queued stays so, unless its caller gives it up. -/
lemma sending_step (hc : s.works.Choked room) {r : Request} (hr : s.request? r.id = some r)
    (hphase : r.phase = .sending) (now : Instant) (e : Event) :
    e = .abandoned r.id ∨ ∃ r', (s.step now e).request? r.id = some r' ∧ r'.phase = .sending := by
  by_cases hown : e = .request r.id
  · subst hown
    rw [step, stepRequest_of_choked hc hr hphase]
    exact .inr ⟨r, hr, hphase⟩
  · rw [← hphase]
    exact phase_kept hr hown now

/-- A stopping that is about to give an order stays so. -/
lemma phase_step_of_choked (hs : s.ledger.Sound) (hw : s.works.Steady) (hc : s.works.Choked room)
    {phase : StopPhase} (hphase : s.works.phase = some phase)
    (hgives : phase = .sending ∨ phase = .closing) (now : Instant) (e : Event) :
    (s.step now e).works.phase = some phase := by
  by_cases hown : e = .stopping
  · rw [hown, step, stepStopping_of_choked hc hw hphase hgives]
    exact hphase
  · exact ((act_step s now e).kept_or_stopped hs hphase).resolve_right fun h => hown h.1

/-! ## The stopping cannot give all its orders -/

/-- A session is crowded when the worker program has not ended, and the stopping cannot give all its
orders. -/
lemma crowded_iff (s : Session) (room : Nat) :
    s.works.Crowded room ↔ ¬ (s.ending.isSome = true ∨ s.works.Clears room) := by
  rw [not_or, Option.not_isSome_iff_eq_none]
  exact ⟨fun hc => ⟨hc.living, hc.blocked⟩, fun h => ⟨h.1, h.2⟩⟩

/-- Once it has been said that the session is over, the reader waits for no more output. -/
lemma isHearing_of_exited (hs : s.ledger.Sound) (hexited : s.exited = true) :
    s.reader.isHearing = false := by
  have hstage : s.reader.stage = .clearing ∨ s.reader.stage = .over := hs.exited.1 hexited
  cases hreader : s.reader with
  | reading _ _ _ =>
    rw [hreader] at hstage
    rcases hstage with h | h <;> cases h
  | _ => rfl

/-- The stopping does nothing to the writer. -/
lemma StopAct.writer_eq {t : Stopping} (h : StopAct s now t w) : w.writer = s.writer := by
  cases h <;> rfl

/-- The stopping does not end the worker program. -/
lemma StopAct.ending_eq {t : Stopping} (h : StopAct s now t w) : w.ending = s.ending := by
  cases h <;> rfl

/-- Each order that the stopping gives takes the room of one at most, and of one exactly if some
are left over already. Only where the reader has seen the end of the output and not said so may the
stopping come to give an order more than it had to. -/
lemma load_stopAct (hs : s.ledger.Sound) (hw : s.works.Steady) (hopen : s.writer ≠ .over)
    {t : Stopping} (ht : s.stopping = some t) (h : StopAct s now t w) (room : Nat) :
    (0 < Works.leftOver s.queue room s.writer.unwritten → s.works.load room ≤ w.load room) ∧
      ((∀ deadline, t.phase = .draining deadline →
        s.reader.isHearing = true ∨ s.exited = true) → w.load room ≤ s.works.load room) := by
  have hworks := works_phase ht
  have hover (h : s.writerOver = true) : False := hopen ((writerOver_iff s).1 h)
  have hsame (h : w.load room = s.works.load room) :
      (0 < Works.leftOver s.queue room s.writer.unwritten → s.works.load room ≤ w.load room) ∧
        ((∀ deadline, t.phase = .draining deadline →
          s.reader.isHearing = true ∨ s.exited = true) → w.load room ≤ s.works.load room) :=
    ⟨fun _ => Nat.le_of_eq h.symm, fun _ => Nat.le_of_eq h⟩
  have hleft {n : Nat} (h : s.works.ordersLeft = n) :
      s.works.load room = Works.leftOver s.queue room s.writer.unwritten + n := by
    rw [Works.load, h]
    rfl
  have hgiven (o : WriterOrder) := Works.leftOver_append s.queue o room s.writer.unwritten
  cases h with
  | numbered h _ hnot =>
    refine ⟨fun _ => Nat.add_le_add_left s.works.ordersLeft_le_two _, fun hheard => ?_⟩
    have hhearing := (hheard _ h).resolve_right (Bool.eq_false_iff.1 hnot)
    refine Nat.le_of_eq (hleft ?_).symm
    simp only [Works.ordersLeft, hworks, h]
    exact if_pos hhearing
  | spared h _ hexited =>
    have hhearing := isHearing_of_exited hs hexited
    refine hsame (hleft ?_).symm
    simp only [Works.ordersLeft, hworks, h]
    exact if_neg (Bool.eq_false_iff.1 hhearing)
  | registered h _ => exact hsame (hleft (by simp only [Works.ordersLeft, hworks, h])).symm
  | asked h id _ _ _ _ =>
    obtain ⟨hle, heq⟩ := hgiven (.send (requestFrame id .shutdown .null))
    rw [hleft (n := 2) (by simp only [Works.ordersLeft, hworks, h])]
    simp only [Works.load, Works.ordersLeft, works]
    exact ⟨fun hpos => by rw [heq hpos], fun _ => by omega⟩
  | refused _ _ h => exact (hover h).elim
  | waited h _ => exact hsame (hleft (by simp only [Works.ordersLeft, hworks, h])).symm
  | struck h => exact hsame (hleft (by simp only [Works.ordersLeft, hworks, h])).symm
  | unnumbered h hid =>
    have hnumber := hw.numbered t.phase hworks h.1 h.2
    rw [works, ht, Option.bind_some, hid] at hnumber
    cases hnumber
  | closed h _ _ =>
    obtain ⟨hle, heq⟩ := hgiven .close
    rw [hleft (n := 1) (by simp only [Works.ordersLeft, hworks, h])]
    simp only [Works.load, Works.ordersLeft, works]
    exact ⟨fun hpos => by rw [heq hpos], fun _ => by omega⟩
  | closedBefore _ h => exact (hover h).elim
  | tookCharge h _ _ => exact hsame (hleft (by simp only [Works.ordersLeft, hworks, h])).symm
  | outwaited h _ => exact hsame (hleft (by simp only [Works.ordersLeft, hworks, h])).symm
  | letGo h _ _ =>
    exact hsame (hleft (Works.ordersLeft_eq_zero hworks (Nat.le_of_succ_le h))).symm

/-- When the writer takes a frame, there is as much to write as before. -/
lemma load_taken {frame : Json} {rest : List WriterOrder} (hwriter : s.writer = .idle)
    (hqueue : s.queue = .send frame :: rest) (room : Nat) :
    Works.load { s.works with queue := rest, writer := .writing (frameOf frame) } room =
      s.works.load room := by
  simp only [Works.load, works, hwriter, hqueue, Writer.unwritten, Works.ordersLeft]
  rw [Works.leftOver_send (Nat.zero_le room), Nat.sub_zero]

/-- When the writer has written a frame, there is as much to write as before. -/
lemma load_written (hwriter : s.writer = .writing []) (room : Nat) :
    Works.load { s.works with writer := .idle } room = s.works.load room := by
  simp only [Works.load, works, hwriter]
  rfl

/-- **Nothing from inside a session** lets the stopping give all its orders when it cannot. -/
theorem crowded_act (hs : s.ledger.Sound) (hw : s.works.Steady) (h : Act s now e w)
    (he : e.isOutside = false) (hc : s.works.Crowded room) : w.Crowded room := by
  obtain ⟨hopen, hmany⟩ := hc.spelled
  have hpos := Works.leftOver_pos hmany
  -- The steps of the reader change no numbers, and neither do those of the writer.
  have hkept {w : Works} (hliving : w.ending = none) (hopen : w.writer ≠ .over)
      (hload : w.load room = s.works.load room) : w.Crowded room :=
    Works.crowded_of hliving hopen (hload ▸ hmany)
  cases h with
  | sent r _ _ _ _ =>
    refine Works.crowded_of hc.living hopen (Nat.lt_of_lt_of_le hmany ?_)
    have heq := (Works.leftOver_append s.queue
      (.send (requestFrame r.id r.task.method r.params)) room s.writer.unwritten).2 hpos
    simp only [Works.load, works, heq]
    exact Nat.add_le_add_right (Nat.le_succ _) _
  | begun _ hdisposed _ =>
    -- Where no stopping has begun, it has no orders to give.
    have hnone : s.stopping = none := hs.ordered hdisposed
    exact absurd (hw.clears (by rw [works, hnone]; rfl) room) hc.blocked
  | stopped t ht hstop =>
    have hload := (load_stopAct hs hw hopen ht hstop room).1 hpos
    exact Works.crowded_of (hstop.ending_eq.trans hc.living) (hstop.writer_eq ▸ hopen)
      (Nat.lt_of_lt_of_le hmany hload)
  | taken frame rest hwriter hqueue =>
    exact hkept hc.living (by simp) (load_taken hwriter hqueue room)
  | toldToClose rest _ hqueue =>
    obtain ⟨phase, hphase, hrank⟩ := hw.closed (by rw [works, hqueue]; exact List.mem_cons_self)
    exact absurd hrank (hc.early hw hphase)
  | written hwriter => exact hkept hc.living (by simp) (load_written hwriter room)
  | accepted _ _ _ => cases he
  | broken _ _ _ => cases he
  | readOn _ reader _ _ hhearing =>
    exact hkept hc.living hopen (Works.load_congr rfl rfl rfl (hhearing he))
  | awaits _ hreader _ _ =>
    refine hkept hc.living hopen (Works.load_congr rfl rfl rfl ?_)
    rw [works, hreader]
    rfl
  | awaited _ _ hreader =>
    refine hkept hc.living hopen (Works.load_congr rfl rfl rfl ?_)
    rw [works, hreader]
    rfl
  | ended _ _ => cases he
  | aside _ => exact hc

/-! ## When the pipe takes bytes -/

/-- Of the works only the writer is another when the worker's input takes some bytes, and it has so
much less to write. -/
lemma works_accept (s : Session) (n : Nat) :
    ∃ writer, (s.accept n).works = { s.works with writer } ∧
      writer.unwritten = s.writer.unwritten - n ∧ (writer = .over ↔ s.writer = .over) := by
  unfold accept
  split
  · rename_i rest hwriter
    refine ⟨.writing (rest.drop n), rfl, ?_, ?_⟩
    · rw [hwriter, Writer.unwritten, Writer.unwritten, List.length_drop]
    · rw [hwriter]
      simp
  · rename_i hnot
    refine ⟨s.writer, rfl, ?_, Iff.rfl⟩
    cases hwriter : s.writer with
    | writing rest => exact absurd hwriter (hnot rest)
    | _ => exact (Nat.zero_sub n).symm

/-- The stopping stays as it is when the worker's input takes some bytes. -/
lemma stopping_accept (s : Session) (n : Nat) : (s.accept n).stopping = s.stopping := by
  unfold accept
  split <;> rfl

end Session

namespace Piped

variable {p q : Piped} {now later : Instant} {e : Event}

/-- The room in the pipe, when it has taken some bytes. -/
lemma room_accepted (p : Piped) (now : Instant) (n : Nat) :
    (p.step now (.session (.accepted n))).room = p.room - p.taken (.accepted n) :=
  Nat.sub_add_eq _ _ _

/-- No more goes into the pipe than is left to write. -/
lemma taken_le_unwritten (p : Piped) (n : Nat) :
    p.taken (.accepted n) ≤ p.session.writer.unwritten :=
  Nat.le_trans (Nat.min_le_right _ _) (Nat.min_le_right _ _)

/-- What goes into the pipe is not left to write. -/
lemma unwritten_accepted (p : Piped) (now : Instant) (n : Nat) :
    (p.step now (.session (.accepted n))).session.writer.unwritten =
      p.session.writer.unwritten - p.taken (.accepted n) := by
  obtain ⟨writer, hworks, hunwritten, -⟩ := Session.works_accept p.session (p.taken (.accepted n))
  have hwriter : (p.step now (.session (.accepted n))).session.writer = writer :=
    congrArg Works.writer hworks
  rw [hwriter, hunwritten]

/-- What goes into the pipe makes no difference to the load. -/
lemma load_accepted (p : Piped) (now : Instant) (n : Nat) :
    let q := p.step now (.session (.accepted n))
    q.session.works.load q.room = p.session.works.load p.room ∧
      (q.session.works.writer = .over ↔ p.session.works.writer = .over) := by
  intro q
  obtain ⟨writer, hworks, hunwritten, hover⟩ :=
    Session.works_accept p.session (p.taken (.accepted n))
  have hq : q.session.works = { p.session.works with writer } := hworks
  rw [hq, p.room_accepted now n, Works.load, Works.load]
  refine ⟨?_, hover⟩
  dsimp only
  rw [hunwritten]
  exact congrArg (· + p.session.works.ordersLeft) (Works.leftOver_sub (p.taken_le_room _)
    (p.taken_le_unwritten n) p.session.queue)

/-- Whether an event makes room for the frame that the writer holds, or ends the writer. -/
def Event.isRelief : Event → Bool
  | .read _ | .session .inputBroken => true
  | _ => false

/-- Relief comes from the worker program only. -/
lemma isRelief_of_not_program (he : e.isProgram = false) : e.isRelief = false := by
  cases e with
  | read n => cases he
  | session e => cases e <;> first | rfl | cases he

/-- Where there is no room for the frame that the writer holds, there is none until it is
relieved. -/
lemma held_step (hheld : p.room < p.session.writer.unwritten) (he : e.isRelief = false)
    (now : Instant) : (p.step now e).room < (p.step now e).session.writer.unwritten := by
  cases e with
  | read n => cases he
  | session e =>
    cases hmoves : e.movesFrame with
    | false =>
      have hnot : ∀ n, e ≠ .accepted n := by
        rintro n rfl
        cases hmoves
      have hwaits := Writer.isHeld_iff.2 (Nat.zero_lt_of_lt hheld)
      rw [step_of_not_accepted hnot, Session.writer_step hwaits hmoves]
      exact hheld
    | true =>
      cases e with
      | accepted n =>
        have htaken := p.taken_le_room (.accepted n)
        rw [p.unwritten_accepted now n, p.room_accepted now n]
        omega
      | inputBroken => cases he
      | _ => cases hmoves

/-- Nor is there in a run in which it is not relieved. -/
lemma held_run (hheld : p.room < p.session.writer.unwritten) (ms : List Moment)
    (hms : ∀ m ∈ ms, m.event.isRelief = false) :
    (p.run ms).room < (p.run ms).session.writer.unwritten := by
  induction ms generalizing p with
  | nil => exact hheld
  | cons m ms ih =>
    have hstep := held_step hheld (hms m List.mem_cons_self) m.now
    exact ih hstep fun m' hm' => hms m' (List.mem_cons_of_mem _ hm')

/-! ## No order can be given -/

/-- **Nothing but the worker program** makes way for orders when none can be given. -/
theorem choked_step (hc : p.session.works.Choked p.room) (he : e.isProgram = false)
    (now : Instant) : (p.step now e).session.works.Choked (p.step now e).room := by
  have hheld := held_step hc.held (isRelief_of_not_program he) now
  cases e with
  | read n => cases he
  | session e =>
    rcases isProgram_eq_false_iff.1 he with ⟨n, rfl⟩ | hinside
    · obtain ⟨writer, hworks, -, -⟩ := Session.works_accept p.session (p.taken (.accepted n))
      have hq : (p.step now (.session (.accepted n))).session.works =
          { p.session.works with writer } := hworks
      refine ⟨hheld, ?_, ?_, ?_⟩
      · exact hq ▸ hc.full
      · exact hq ▸ hc.living
      · exact hq ▸ hc.early
    · rw [step_of_inside hinside]
      exact Session.choked_act (Session.act_step _ now e) hinside hc

/-- Nothing but the worker program makes way in a run either. -/
lemma choked_run (hc : p.session.works.Choked p.room) (ms : List Moment)
    (hms : ∀ m ∈ ms, m.event.isProgram = false) :
    (p.run ms).session.works.Choked (p.run ms).room := by
  induction ms generalizing p with
  | nil => exact hc
  | cons m ms ih =>
    have hstep := choked_step hc (hms m List.mem_cons_self) m.now
    exact ih hstep fun m' hm' => hms m' (List.mem_cons_of_mem _ hm')

/-- Nothing makes way unaided. -/
lemma not_program_of_choked (hc : p.session.works.Choked p.room) {e : Session.Event}
    (he : p.Unaided e) : (Event.session e).isProgram = false := by
  refine he.not_program hc.living fun hkilling => ?_
  exact absurd (hc.early _ hkilling) (by decide)

/-- A request that is about to be queued stays so, unless its caller gives it up. -/
lemma sending_step (hc : p.session.works.Choked p.room) {r : Request}
    (hr : p.session.request? r.id = some r) (hphase : r.phase = .sending) (now : Instant) :
    e = .session (.abandoned r.id) ∨
      ∃ r', (p.step now e).session.request? r.id = some r' ∧ r'.phase = .sending := by
  cases e with
  | read n => exact .inr ⟨r, hr, hphase⟩
  | session e =>
    refine (Session.sending_step hc hr hphase now (p.limited e)).imp_left fun h => ?_
    cases e with
    | abandoned id => exact congrArg Event.session h
    | _ => cases h

/-- **A request that is about to be queued then never is**, unaided. -/
theorem sending_of_choked_reaches (h : p.Reaches now q later)
    (hc : p.session.works.Choked p.room) {r : Request} (hr : p.session.request? r.id = some r)
    (hphase : r.phase = .sending) :
    q.session.works.Choked q.room ∧
      ∃ r', q.session.request? r.id = some r' ∧ r'.phase = .sending := by
  induction h with
  | here => exact ⟨hc, r, hr, hphase⟩
  | waited _ _ ih => exact ih
  | stepped _ e he ih =>
    obtain ⟨hc', r', hr', hphase'⟩ := ih
    have hid : r'.id = r.id := (Session.mem_of_request? hr').2
    refine ⟨choked_step hc' (not_program_of_choked hc' he) _, ?_⟩
    rw [← hid] at hr' ⊢
    refine (sending_step hc' hr' hphase' _).resolve_left fun h => ?_
    exact he.not_abandoned _ (Event.session.inj h)

/-- A request that is about to be queued stays so in a run without the worker program, unless its
caller gives it up. -/
lemma sending_run (hc : p.session.works.Choked p.room) {r : Request}
    (hr : p.session.request? r.id = some r) (hphase : r.phase = .sending) (ms : List Moment)
    (hms : ∀ m ∈ ms, m.event.isProgram = false) :
    (∃ m ∈ ms, m.event = .session (.abandoned r.id)) ∨
      ∃ r', (p.run ms).session.request? r.id = some r' ∧ r'.phase = .sending := by
  induction ms generalizing p r with
  | nil => exact .inr ⟨r, hr, hphase⟩
  | cons m ms ih =>
    have hstep := choked_step hc (hms m List.mem_cons_self) m.now
    rcases sending_step hc hr hphase m.now with hgivenUp | ⟨r', hr', hphase'⟩
    · exact .inl ⟨m, List.mem_cons_self, hgivenUp⟩
    · have hid : r'.id = r.id := (Session.mem_of_request? hr').2
      rw [← hid] at hr' ⊢
      refine (ih hstep hr' hphase' fun m' hm' => hms m' (List.mem_cons_of_mem _ hm')).imp_left ?_
      rintro ⟨m', hm', hgivenUp⟩
      exact ⟨m', List.mem_cons_of_mem _ hm', hgivenUp⟩

/-- **A stopping that is about to give an order then never does**, unaided. -/
theorem phase_of_choked_reaches (h : p.Reaches now q later) (hp : p.Sound)
    (hc : p.session.works.Choked p.room) {phase : StopPhase}
    (hphase : p.session.works.phase = some phase) (hgives : phase = .sending ∨ phase = .closing) :
    q.session.works.Choked q.room ∧ q.session.works.phase = some phase := by
  induction h with
  | here => exact ⟨hc, hphase⟩
  | waited _ _ ih => exact ih
  | stepped h e he ih =>
    obtain ⟨hc', hphase'⟩ := ih
    have hq := h.sound hp
    refine ⟨choked_step hc' (not_program_of_choked hc' he) _, ?_⟩
    exact Session.phase_step_of_choked hq.ledger hq.works hc' hphase' hgives _ _

/-! ## The stopping cannot give all its orders -/

/-- **Nothing but the worker program** lets the stopping give all its orders when it cannot. -/
theorem crowded_step (hp : p.Sound) (hc : p.session.works.Crowded p.room)
    (he : e.isProgram = false) (now : Instant) :
    (p.step now e).session.works.Crowded (p.step now e).room := by
  cases e with
  | read n => cases he
  | session e =>
    rcases isProgram_eq_false_iff.1 he with ⟨n, rfl⟩ | hinside
    · obtain ⟨hload, hover⟩ := p.load_accepted now n
      obtain ⟨writer, hworks, -, -⟩ := Session.works_accept p.session (p.taken (.accepted n))
      have hliving : (p.step now (.session (.accepted n))).session.works.ending = none :=
        (congrArg Works.ending hworks).trans hc.living
      obtain ⟨hopen, hmany⟩ := hc.spelled
      exact Works.crowded_of hliving (fun h => hopen (hover.1 h)) (hload ▸ hmany)
    · rw [step_of_inside hinside]
      exact Session.crowded_act hp.ledger hp.works (Session.act_step _ now e) hinside hc

/-- **The worker program then neither ends nor is killed**, unaided. -/
theorem crowded_reaches (h : p.Reaches now q later) (hp : p.Sound)
    (hc : p.session.works.Crowded p.room) : q.session.works.Crowded q.room := by
  induction h with
  | here => exact hc
  | waited _ _ ih => exact ih
  | stepped h e he ih =>
    have hq := h.sound hp
    have hprogram := he.not_program ih.living fun hkilling => ih.early hq.works hkilling (by decide)
    exact crowded_step hq ih hprogram _

end Piped

end LintPool
