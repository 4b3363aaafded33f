import LintPool.Proofs.Json.Orderly
import LintPool.Proofs.Session.Works

set_option autoImplicit false

/-!
# The frames that a session reads

The frames that the reader has not looked at yet come out of the decoder, which has read each of
them from bytes. So they are orderly, however the bytes were cut and whatever else goes on.

## Main definitions

* `LintPool.Reader.inbox` — the frames that are not looked at yet.
* `LintPool.Session.arriving` — those that come in with an event.

## Main results

* `LintPool.FrameDecoder.orderly_of_mem_feed` — the decoder yields orderly frames.
* `LintPool.Session.inbox_step` — a frame that is not looked at yet was there before, or comes in.
* `LintPool.Session.orderly_inbox` — in every session, all of them are orderly.
-/

namespace LintPool

/-! ## What the decoder yields -/

namespace FrameDecoder

/-- A step of the decoder yields an orderly frame, if it yields one. -/
def YieldsOrderly (outcome : Option Json × FrameDecoder) : Prop :=
  ∀ v, outcome.1 = some v → v.Orderly

/-- A step without a frame yields none that is not. -/
lemma yieldsOrderly_none (d : FrameDecoder) : YieldsOrderly (none, d) :=
  fun _ h => nomatch h

/-- The end of a body yields an orderly frame. -/
lemma yieldsOrderly_endBody (body : Bytes) : YieldsOrderly (endBody body) := by
  unfold endBody decodeBody
  cases hread : Json.ofBytes body with
  | ok v =>
    rintro _ ⟨⟩
    exact Json.orderly_of_ofBytes hread
  | error fault => exact yieldsOrderly_none _

/-- So does the end of a line. -/
lemma yieldsOrderly_endLine (length : Option Nat) (line : Bytes) :
    YieldsOrderly (endLine length line) := by
  unfold endLine endHeader
  split
  · exact yieldsOrderly_none _
  · split
    · exact yieldsOrderly_none _
    · exact yieldsOrderly_endBody _
    · exact yieldsOrderly_none _
  · exact yieldsOrderly_none _
  · exact yieldsOrderly_none _

/-- So does every byte. -/
lemma yieldsOrderly_push (b : UInt8) (d : FrameDecoder) : YieldsOrderly (d.push b) := by
  cases d with
  | idle =>
    rw [push, pushHeader]
    split
    · exact yieldsOrderly_endLine _ _
    · exact yieldsOrderly_none _
  | header length line =>
    rw [push, pushHeader]
    split
    · exact yieldsOrderly_endLine _ _
    · exact yieldsOrderly_none _
  | body missing taken =>
    rw [push]
    split
    · exact yieldsOrderly_endBody _
    · exact yieldsOrderly_none _
  | broken fault => exact yieldsOrderly_none _

/-- The decoder adds orderly frames to those that it has yielded. -/
lemma orderly_of_mem_feedOnto (piece : Bytes) (d : FrameDecoder) {done : List Json}
    (hdone : ∀ v ∈ done, v.Orderly) : ∀ v ∈ (feedOnto done piece d).1, v.Orderly := by
  induction piece generalizing d done with
  | nil => exact hdone
  | cons b piece ih =>
    refine ih _ fun v hv => ?_
    rcases List.mem_append.1 hv with hnew | hold
    · exact yieldsOrderly_push b d v (Option.mem_toList.1 hnew)
    · exact hdone v hold

/-- **The decoder yields orderly frames.** -/
theorem orderly_of_mem_feed {piece : Bytes} {d : FrameDecoder} {v : Json}
    (hv : v ∈ (d.feed piece).1) : v.Orderly :=
  orderly_of_mem_feedOnto piece d (fun _ h => absurd h List.not_mem_nil) v (List.mem_reverse.1 hv)

/-- So it does at the end of the stream. -/
lemma orderly_of_finish {d : FrameDecoder} {v : Json} (hv : d.finish.1 = some v) : v.Orderly := by
  unfold finish at hv
  split at hv
  · cases hv
  · cases hv
  · rename_i length line _
    have hline := yieldsOrderly_endLine length line.reverse
    split at hv <;> rename_i heq <;> exact hline v (by rw [heq]; exact hv)
  · cases hv
  · cases hv

end FrameDecoder

/-! ## Frames that come in -/

/-- The frames that the reader has not looked at yet. -/
def Reader.inbox : Reader → List Json
  | .reading _ inbox _ => inbox
  | _ => []

namespace Session

/-- The frames that come in with an event. -/
def arriving (s : Session) : Event → List Json
  | .output bytes =>
    match s.reader with
    | .reading decoder _ none => (decoder.feed bytes).1
    | _ => []
  | .outputClosed =>
    match s.reader with
    | .reading decoder _ none => decoder.finish.1.toList
    | _ => []
  | _ => []

variable {s : Session} {now : Instant}

/-- A disposal leaves the reader. -/
lemma reader_dispose (s : Session) (now : Instant) : (s.dispose now).reader = s.reader := by
  unfold dispose
  split <;> rfl

/-- A turn of a request leaves the reader. -/
lemma reader_request (s : Session) (now : Instant) (id : Nat) :
    (s.step now (.request id)).reader = s.reader := by
  dsimp only [step]
  unfold stepRequest
  split
  · rfl
  · split
    · rfl
    · unfold stepChecking
      split <;> rfl
    · unfold stepSending enqueue?
      split
      · rfl
      · split <;> rfl
    · unfold stepWaiting
      split
      · rfl
      · split
        · rfl
        · split <;> rfl
    · rename_i r _ _ cause _
      cases cause with
      | timedOut => exact reader_dispose (s.strike r.id) now
      | _ => rfl
    · rfl

/-- A turn of the stopping leaves the reader. -/
lemma reader_stopping (s : Session) (now : Instant) :
    (s.step now .stopping).reader = s.reader := by
  dsimp only [step]
  cases hstep : s.stepStopping now with
  | none => rfl
  | some s' =>
    obtain ⟨t, ht⟩ : ∃ t, s.stopping = some t := by
      cases ht : s.stopping with
      | none => simp [stepStopping, ht] at hstep
      | some t => exact ⟨t, rfl⟩
    have hreader : ∀ w, StopAct s now t w → w.reader = s.reader := by
      rintro w (_ | _ | _ | _ | _ | _ | _ | _ | _ | _ | _ | _ | _) <;> rfl
    exact hreader _ (stopAct_step ht hstep)

/-- A turn of the watch leaves the reader. -/
lemma reader_watchdog (s : Session) (now : Instant) :
    (s.step now .watchdog).reader = s.reader := by
  dsimp only [step]
  unfold stepWatchdog
  split
  · rfl
  · split
    · split
      · rfl
      · split
        · exact reader_dispose { s with watchdog := .over } now
        · rfl
    · rfl

/-- Only the reader, and what comes out of the worker program, change what is read. -/
lemma reader_step {e : Event} (hreader : e ≠ .reader) (houtput : ∀ bytes, e ≠ .output bytes)
    (hclosed : e ≠ .outputClosed) : (s.step now e).reader = s.reader := by
  cases e with
  | begin task params =>
    dsimp only [step]
    unfold Session.begin
    split <;> rfl
  | request id => exact reader_request s now id
  | abandoned id =>
    dsimp only [step]
    unfold abandon
    split
    · rfl
    · dsimp only
      split <;> rfl
  | dispose => exact reader_dispose s now
  | stopping => exact reader_stopping s now
  | watchdog => exact reader_watchdog s now
  | writer =>
    dsimp only [step]
    unfold stepWriter
    split <;> rfl
  | reader => exact absurd rfl hreader
  | accepted n =>
    dsimp only [step]
    unfold accept
    split <;> rfl
  | inputBroken =>
    dsimp only [step]
    unfold breakInput
    split <;> rfl
  | output bytes => exact absurd rfl (houtput bytes)
  | outputClosed => exact absurd rfl hclosed
  | ended ending =>
    dsimp only [step]
    split <;> rfl

/-- Handing a frame on leaves the reader. -/
lemma reader_dispatch (s : Session) (frame : Json) : (s.dispatch frame).reader = s.reader := by
  unfold dispatch answer
  split
  · split <;> rfl
  · rfl
  · rfl

/-- A step of the reader brings in no frame. -/
lemma inbox_reader {v : Json} (hv : v ∈ (s.step now .reader).reader.inbox) :
    v ∈ s.reader.inbox := by
  dsimp only [step] at hv
  unfold stepReader at hv
  split at hv
  · rename_i hreader
    rw [Option.getD_some, reader_dispatch] at hv
    rw [hreader]
    exact List.mem_cons_of_mem _ hv
  · cases hv
  · exact hv
  · unfold stepReaderLocking at hv
    split at hv
    · exact hv
    · split at hv <;> cases hv
  · unfold stepAwaiting at hv
    split at hv
    · cases hv
    · split at hv
      · cases hv
      · exact hv
  · cases hv
  · cases hv
  · cases hv
  · exact hv

/-- **A frame that is not looked at yet** was there before, or comes in. -/
theorem inbox_step {e : Event} {v : Json} (hv : v ∈ (s.step now e).reader.inbox) :
    v ∈ s.reader.inbox ∨ v ∈ s.arriving e := by
  cases e with
  | reader => exact .inl (inbox_reader hv)
  | output bytes =>
    dsimp only [step] at hv
    unfold receive at hv
    split at hv
    · rename_i hreader
      rw [hreader, arriving, hreader]
      exact List.mem_append.1 hv
    · exact .inl hv
  | outputClosed =>
    dsimp only [step] at hv
    unfold closeOutput at hv
    split at hv
    · rename_i hreader
      rw [hreader, arriving, hreader]
      exact List.mem_append.1 hv
    · exact .inl hv
  | _ =>
    rw [reader_step (by simp) (by simp) (by simp)] at hv
    exact .inl hv

/-- What comes in is orderly. -/
lemma orderly_arriving {e : Event} {v : Json} (hv : v ∈ s.arriving e) : v.Orderly := by
  unfold arriving at hv
  split at hv
  · split at hv
    · exact FrameDecoder.orderly_of_mem_feed hv
    · cases hv
  · split at hv
    · exact FrameDecoder.orderly_of_finish (Option.mem_toList.1 hv)
    · cases hv
  · cases hv

/-- **In every session, the frames that are not looked at yet are orderly.** -/
theorem orderly_inbox (h : ∀ v ∈ s.reader.inbox, v.Orderly) (ms : List Moment) :
    ∀ v ∈ (s.run ms).reader.inbox, v.Orderly := by
  induction ms generalizing s with
  | nil => exact h
  | cons m ms ih =>
    exact ih fun v hv => (inbox_step hv).elim (h v) orderly_arriving

end Session

end LintPool
