import LintPool.Frame.Decoder
import LintPool.Proofs.Frame.Lines

set_option autoImplicit false

/-!
# Pieces of a stream

The decoder keeps what it needs of the bytes so far: what the rest of the stream says can be told
from its state. So it does not matter where the stream is cut, and what comes out is what the whole
stream says.

## Main definitions

* `LintPool.FrameDecoder.framesFrom` — what is still to come, if the stream goes on so.

## Main results

* `LintPool.FrameDecoder.accounts_push` — one byte yields what it completes and leaves the rest.
* `LintPool.FrameDecoder.feed_append` — where a piece is cut does not matter.
* `LintPool.FrameDecoder.readAll_eq_framesOf` — a stream in pieces says what the whole says.
-/

namespace LintPool

/-! ## A frame and those after it -/

/-- The frames of a stream whose first frame is `frame`. -/
def framesAfter (frame : Except FrameFault (Json × Bytes)) : List Json × StreamEnd :=
  match frame with
  | .error fault => ([], .faulty fault)
  | .ok (v, rest) => (v :: (framesOf rest).1, (framesOf rest).2)

/-- The frame that follows a header. -/
def frameAfter (header : Except FrameFault (Option Nat × Bytes)) :
    Except FrameFault (Json × Bytes) :=
  match header with
  | .error fault => .error fault
  | .ok (length, rest) =>
    match acceptLength length with
    | .error fault => .error fault
    | .ok n => takeBody n rest

/-- There are no frames in nothing, and it ends cleanly. -/
@[simp]
lemma framesOf_nil : framesOf [] = ([], .clean) := by
  rw [framesOf]

/-- The first frame is what follows the first header. -/
lemma takeFrame_eq (input : Bytes) : takeFrame input = frameAfter (takeHeader none input) := by
  unfold takeFrame frameAfter
  rfl

/-- A stream that goes on is a frame and what follows it. -/
lemma framesOf_eq {input : Bytes} (h : input ≠ []) :
    framesOf input = framesAfter (frameAfter (takeHeader none input)) := by
  obtain ⟨b, more, rfl⟩ := List.exists_cons_of_ne_nil h
  rw [← takeFrame_eq]
  unfold framesOf
  split
  · rename_i hfault
    simp only [framesAfter, hfault]
  · rename_i hok
    simp only [framesAfter, hok]

namespace FrameDecoder

/-! ## What is still to come -/

/-- What is still to come from a state of the decoder, if the stream goes on as `input`. -/
def framesFrom : FrameDecoder → Bytes → List Json × StreamEnd
  | .idle, input => framesOf input
  | .header length line, input =>
    framesAfter (frameAfter (takeHeader length (line.reverse ++ input)))
  | .body missing taken, input =>
    framesAfter (takeBody (missing + taken.length) (taken.reverse ++ input))
  | .broken fault, _ => ([], .faulty fault)

/-- The decoder is in a line that has not ended, or in a body that is not complete. -/
def Midway : FrameDecoder → Prop
  | .header _ line => 0x0A ∉ line
  | .body missing _ => 0 < missing
  | _ => True

/-- A message, if there is one, in front of what is still to come. -/
def andThen (v : Option Json) (later : List Json × StreamEnd) : List Json × StreamEnd :=
  (v.toList ++ later.1, later.2)

/-- A step keeps an account of what is still to come. -/
def Accounts (whole : List Json × StreamEnd) (step : Option Json × FrameDecoder) (input : Bytes) :
    Prop :=
  whole = andThen step.1 (step.2.framesFrom input) ∧ step.2.Midway

/-- The end of a body accounts for the body. -/
lemma accounts_endBody (body input : Bytes) :
    Accounts (framesAfter (takeBody body.length (body ++ input))) (endBody body) input := by
  have hlong : ¬ (body ++ input).length < body.length := by
    simp
  rw [takeBody, if_neg hlong, List.take_left, List.drop_left, endBody]
  cases decodeBody body with
  | ok v => exact ⟨rfl, trivial⟩
  | error fault => exact ⟨rfl, trivial⟩

/-- The end of a header accounts for what follows the header. -/
lemma accounts_endHeader (length : Option Nat) (input : Bytes) :
    Accounts (framesAfter (frameAfter (.ok (length, input)))) (endHeader length) input := by
  rw [endHeader, frameAfter]
  cases acceptLength length with
  | error fault => exact ⟨rfl, trivial⟩
  | ok n =>
    cases n with
    | zero => exact accounts_endBody [] input
    | succ n => exact ⟨rfl, n.succ_pos⟩

/-- The end of a line accounts for the line and what follows it. -/
lemma accounts_endLine (length : Option Nat) {whole line input : Bytes} (hsome : whole ≠ [])
    (h : takeLine whole = (line, input)) :
    Accounts (framesAfter (frameAfter (takeHeader length whole))) (endLine length line) input := by
  obtain ⟨b, more, rfl⟩ := List.exists_cons_of_ne_nil hsome
  unfold takeHeader endLine
  rw [h]
  cases headerLine line with
  | error fault => exact ⟨rfl, trivial⟩
  | ok meaning =>
    cases meaning with
    | blank => exact accounts_endHeader length input
    | other => exact ⟨rfl, List.not_mem_nil⟩
    | length n => exact ⟨rfl, List.not_mem_nil⟩

/-- A byte of a header accounts for the line so far and what follows it. -/
lemma accounts_pushHeader (length : Option Nat) {line : Bytes} (hline : 0x0A ∉ line) (b : UInt8)
    (input : Bytes) :
    Accounts (framesAfter (frameAfter (takeHeader length (line.reverse ++ b :: input))))
      (pushHeader length line b) input := by
  rw [pushHeader]
  split
  · rename_i hfeed
    subst hfeed
    refine accounts_endLine length (by simp) ?_
    rw [List.reverse_cons]
    exact takeLine_ended (by simpa using hline) input
  · rename_i hb
    refine ⟨?_, ?_⟩
    · simp [andThen, framesFrom]
    · exact not_or.2 ⟨Ne.symm hb, hline⟩ |> mt List.mem_cons.1

/-- **One byte yields what it completes**, and the state that it leaves tells the rest. -/
theorem accounts_push {d : FrameDecoder} (hd : d.Midway) (b : UInt8) (input : Bytes) :
    Accounts (d.framesFrom (b :: input)) (d.push b) input := by
  cases d with
  | idle =>
    have hframes : framesFrom .idle (b :: input) =
        framesAfter (frameAfter (takeHeader none (b :: input))) := framesOf_eq (by simp)
    rw [hframes]
    exact accounts_pushHeader none List.not_mem_nil b input
  | header length line => exact accounts_pushHeader length hd b input
  | body missing taken =>
    rw [push]
    have hmissing : 0 < missing := hd
    split
    · have hlength : missing + taken.length = (b :: taken).reverse.length := by
        simp only [List.length_reverse, List.length_cons]
        omega
      have hinput : taken.reverse ++ b :: input = (b :: taken).reverse ++ input := by simp
      rw [framesFrom, hlength, hinput]
      exact accounts_endBody _ input
    · have hlength : missing + taken.length = missing - 1 + (b :: taken).length := by
        rw [List.length_cons]
        omega
      refine ⟨?_, by rw [Midway]; omega⟩
      rw [framesFrom, hlength]
      simp [andThen, framesFrom]
  | broken fault => exact ⟨rfl, trivial⟩

/-- After a line, the next line is empty so far. -/
lemma line_of_endLine {length length' : Option Nat} {line line' : Bytes}
    (h : (endLine length line).2 = .header length' line') : line' = [] := by
  unfold endLine endHeader endBody at h
  repeat' split at h
  all_goals cases h
  all_goals rfl

/-- Inside a body, what is to come is the end inside it. -/
lemma framesFrom_body_nil {missing : Nat} (h : 0 < missing) (taken : Bytes) :
    framesFrom (.body missing taken) [] = ([], .faulty .endedInBody) := by
  have hshort : (taken.reverse ++ []).length < missing + taken.length := by
    rw [List.append_nil, List.length_reverse]
    omega
  rw [framesFrom, takeBody, if_pos hshort, framesAfter]

/-- Between two lines, what is to come is the end inside the header. -/
lemma framesFrom_header_nil (length : Option Nat) :
    framesFrom (.header length []) [] = ([], .faulty .endedInHeader) := by
  rw [framesFrom, List.reverse_nil, List.append_nil, takeHeader, frameAfter, framesAfter]

/-- **The end of the stream yields what it completes**, and that is all that was to come. -/
theorem framesFrom_nil {d : FrameDecoder} (hd : d.Midway) :
    d.framesFrom [] = (d.finish.1.toList, d.finish.2) := by
  cases d with
  | idle => exact framesOf_nil
  | body missing taken => exact framesFrom_body_nil hd taken
  | broken fault => rfl
  | header length line =>
    cases line with
    | nil => exact framesFrom_header_nil length
    | cons b line =>
      have hwhole : takeLine (b :: line).reverse = ((b :: line).reverse, []) :=
        takeLine_unended (fun hmem => hd (List.mem_reverse.1 hmem))
      obtain ⟨haccount, hmidway⟩ := accounts_endLine length (by simp) hwhole
      rw [framesFrom, List.append_nil, haccount]
      cases hstep : endLine length (b :: line).reverse with
      | mk v d =>
        simp only [hstep] at hmidway
        simp only [finish, hstep, andThen]
        cases d with
        | idle => simp [framesFrom]
        | header length' line' =>
          have hempty : line' = [] := line_of_endLine (congrArg Prod.snd hstep)
          subst hempty
          simp [framesFrom_header_nil]
        | body missing taken => simp [framesFrom_body_nil hmidway]
        | broken fault => simp [framesFrom]

/-! ## Whole pieces -/

/-- The messages of one byte go before those of the bytes after it. -/
lemma feedOnto_eq (done : List Json) (piece : Bytes) (d : FrameDecoder) :
    feedOnto done piece d = ((feed piece d).1.reverse ++ done, (feed piece d).2) := by
  have hdone : ∀ (piece : Bytes) (done : List Json) (d : FrameDecoder),
      feedOnto done piece d = ((feedOnto [] piece d).1 ++ done, (feedOnto [] piece d).2) := by
    intro piece
    induction piece with
    | nil => exact fun done d => rfl
    | cons b piece ih =>
      intro done d
      simp only [feedOnto]
      rw [ih (_ ++ done), ih (_ ++ [])]
      simp
  rw [hdone]
  simp [feed]

/-- Feeding nothing changes nothing. -/
@[simp]
lemma feed_nil (d : FrameDecoder) : feed [] d = ([], d) := rfl

/-- A piece is its first byte and the others. -/
lemma feed_cons (b : UInt8) (piece : Bytes) (d : FrameDecoder) :
    feed (b :: piece) d =
      ((d.push b).1.toList ++ (feed piece (d.push b).2).1, (feed piece (d.push b).2).2) := by
  have hback : ∀ v : Option Json, v.toList.reverse = v.toList := by
    intro v
    cases v <;> rfl
  simp only [feed, feedOnto]
  rw [feedOnto_eq]
  simp [feed, hback]

/-- **Where a piece is cut does not matter.** -/
theorem feed_append (first second : Bytes) (d : FrameDecoder) :
    feed (first ++ second) d =
      ((feed first d).1 ++ (feed second (feed first d).2).1, (feed second (feed first d).2).2) := by
  induction first generalizing d with
  | nil => rfl
  | cons b first ih => simp [feed_cons, ih]

/-- What a piece yields and what is to come after it is what was to come. -/
lemma framesFrom_feed (piece input : Bytes) {d : FrameDecoder} (hd : d.Midway) :
    d.framesFrom (piece ++ input) =
        ((feed piece d).1 ++ ((feed piece d).2.framesFrom input).1,
          ((feed piece d).2.framesFrom input).2) ∧
      (feed piece d).2.Midway := by
  induction piece generalizing d with
  | nil => exact ⟨rfl, hd⟩
  | cons b piece ih =>
    obtain ⟨hbyte, hmidway⟩ := accounts_push hd b (piece ++ input)
    obtain ⟨hpiece, hend⟩ := ih hmidway
    rw [feed_cons]
    refine ⟨?_, hend⟩
    rw [List.cons_append, hbyte, andThen, hpiece, List.append_assoc]

/-- Pieces are fed as the bytes that they are. -/
lemma readAll_eq (pieces : List Bytes) :
    readAll pieces =
      ((feed pieces.flatten .idle).1 ++ (feed pieces.flatten .idle).2.finish.1.toList,
        (feed pieces.flatten .idle).2.finish.2) := by
  have hfold : ∀ (pieces : List Bytes) (done : List Json) (d : FrameDecoder),
      pieces.foldl (fun acc piece => (acc.1 ++ (feed piece acc.2).1, (feed piece acc.2).2))
        (done, d) = (done ++ (feed pieces.flatten d).1, (feed pieces.flatten d).2) := by
    intro pieces
    induction pieces with
    | nil => simp
    | cons piece pieces ih => simp [ih, feed_append]
  simp only [readAll]
  rw [hfold]
  rfl

/-- **A stream in pieces says what the whole stream says**, however it is cut. -/
theorem readAll_eq_framesOf (pieces : List Bytes) : readAll pieces = framesOf pieces.flatten := by
  obtain ⟨hframes, hmidway⟩ := framesFrom_feed pieces.flatten [] (d := .idle) trivial
  have hend := framesFrom_nil hmidway
  rw [List.append_nil] at hframes
  rw [readAll_eq, show framesOf pieces.flatten = framesFrom .idle pieces.flatten from rfl, hframes,
    hend]

end FrameDecoder

end LintPool
