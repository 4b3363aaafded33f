import LintPool.Frame.Header

set_option autoImplicit false

/-!
# What a stream of frames says

Here a whole stream is at hand. Lines are taken up to the first blank one, then the body; then the
next frame begins.

## Main definitions

* `LintPool.takeLine` — the first line of a byte string.
* `LintPool.takeHeader` — the length that a header gives, and what follows the header.
* `LintPool.takeFrame` — the first frame.
* `LintPool.framesOf` — all frames, and how the stream ends.
-/

namespace LintPool

/-- The first line of a byte string, its line feed included, and what follows it. -/
def takeLine : Bytes → Bytes × Bytes
  | [] => ([], [])
  | b :: rest => if b = 0x0A then ([b], rest) else
    let (line, rest) := takeLine rest
    (b :: line, rest)

/-- What follows the first line is no longer than the whole. -/
theorem takeLine_length (input : Bytes) : (takeLine input).2.length ≤ input.length := by
  induction input with
  | nil => simp [takeLine]
  | cons b rest ih =>
    unfold takeLine
    split
    · simp
    · simpa using Nat.le_succ_of_le ih

/-- A line that is there leaves less. -/
theorem takeLine_cons_length (b : UInt8) (rest : Bytes) :
    (takeLine (b :: rest)).2.length ≤ rest.length := by
  unfold takeLine
  split
  · exact Nat.le_refl _
  · exact takeLine_length rest

/-- How a stream ends. -/
inductive StreamEnd where
  /-- Between two frames. -/
  | clean
  /-- At a fault. -/
  | faulty (fault : FrameFault)
  deriving Repr, DecidableEq

/-- Takes the rest of a header: the last length that it gives, and what follows it. -/
def takeHeader (length : Option Nat) (input : Bytes) : Except FrameFault (Option Nat × Bytes) :=
  match input with
  | [] => .error .endedInHeader
  | b :: more =>
    match headerLine (takeLine (b :: more)).1 with
    | .error fault => .error fault
    | .ok .blank => .ok (length, (takeLine (b :: more)).2)
    | .ok .other => takeHeader length (takeLine (b :: more)).2
    | .ok (.length n) => takeHeader (some n) (takeLine (b :: more)).2
termination_by input.length
decreasing_by
  all_goals
    have := takeLine_cons_length b more
    simp only [List.length_cons]; omega

/-- A header leaves less. -/
theorem takeHeader_length {length : Option Nat} {input rest : Bytes} {n : Option Nat}
    (h : takeHeader length input = .ok (n, rest)) : rest.length < input.length := by
  fun_induction takeHeader length input with
  | case1 => cases h
  | case2 => cases h
  | case3 length b more hl =>
    have shorter := takeLine_cons_length b more
    cases h
    simp only [List.length_cons]; omega
  | case4 length b more hl ih =>
    have shorter := takeLine_cons_length b more
    have := ih h
    simp only [List.length_cons]; omega
  | case5 length b more k hl ih =>
    have shorter := takeLine_cons_length b more
    have := ih h
    simp only [List.length_cons]; omega

/-- Takes a body of `n` bytes, and what follows it. -/
def takeBody (n : Nat) (input : Bytes) : Except FrameFault (Json × Bytes) :=
  if input.length < n then .error .endedInBody
  else match decodeBody (input.take n) with
    | .ok v => .ok (v, input.drop n)
    | .error fault => .error fault

/-- A body leaves no more. -/
theorem takeBody_length {n : Nat} {input rest : Bytes} {v : Json}
    (h : takeBody n input = .ok (v, rest)) : rest.length ≤ input.length := by
  unfold takeBody at h
  repeat' split at h
  · cases h
  · cases h; simp
  · cases h

/-- Takes the first frame of a stream that goes on. -/
def takeFrame (input : Bytes) : Except FrameFault (Json × Bytes) :=
  match takeHeader none input with
  | .error fault => .error fault
  | .ok (length, rest) =>
    match acceptLength length with
    | .error fault => .error fault
    | .ok n => takeBody n rest

/-- A frame leaves less. -/
theorem takeFrame_length {input rest : Bytes} {v : Json}
    (h : takeFrame input = .ok (v, rest)) : rest.length < input.length := by
  unfold takeFrame at h
  split at h
  · cases h
  · rename_i hh
    split at h
    · cases h
    · exact Nat.lt_of_le_of_lt (takeBody_length h) (takeHeader_length hh)

/-- All frames of a stream, and how it ends. -/
def framesOf (input : Bytes) : List Json × StreamEnd :=
  match input with
  | [] => ([], .clean)
  | b :: more =>
    match h : takeFrame (b :: more) with
    | .error fault => ([], .faulty fault)
    | .ok (v, rest) =>
      have : rest.length < (b :: more).length := takeFrame_length h
      let (vs, ending) := framesOf rest
      (v :: vs, ending)
termination_by input.length
decreasing_by exact this

end LintPool
