import LintPool.Host.Child
import LintPool.Proofs.Frame.RoundTrip
import LintPool.Proofs.Session.Works

set_option autoImplicit false

/-!
# A writer that waits for the worker's input

A writer that holds a frame writes no other before the worker's input has taken all of it. A pipe
takes the bytes of many small frames although the worker program reads none; but a frame is longer
than the parameters of its request, and these may be more than a pipe holds.

## Main definitions

* `LintPool.Writer.isHeld`, `LintPool.Writer.unwritten` — whether the writer waits for the worker's
  input, and with how many bytes.
* `LintPool.Session.bulk` — parameters that no pipe holds.

## Main results

* `LintPool.Session.writer_run` — a writer that waits does so until its frame moves.
* `LintPool.Session.pipeCapacity_lt_bulk` — a frame that no pipe holds.
-/

namespace LintPool

/-- Whether the writer waits for the worker's input to take the rest of a frame. -/
def Writer.isHeld : Writer → Bool
  | .writing (_ :: _) => true
  | _ => false

/-- A writer that waits for the worker's input has something left to write. -/
lemma Writer.exists_of_isHeld {writer : Writer} (h : writer.isHeld = true) :
    ∃ b rest, writer = .writing (b :: rest) := by
  unfold isHeld at h
  split at h
  · exact ⟨_, _, rfl⟩
  · cases h

/-- The number of bytes that the writer has yet to write of the frame that it holds. -/
def Writer.unwritten : Writer → Nat
  | .writing rest => rest.length
  | _ => 0

/-- A writer waits for the worker's input if it has something left to write. -/
lemma Writer.isHeld_iff {writer : Writer} : writer.isHeld = true ↔ 0 < writer.unwritten := by
  cases writer with
  | writing rest => cases rest <;> simp [isHeld, unwritten]
  | _ => simp [isHeld, unwritten]

namespace Session

variable {s : Session} {now : Instant} {e : Event}

/-! ## The frame stays where it is -/

/-- Whether an event moves the frame that the writer holds: the worker's input takes some of it, or
breaks. -/
def Event.movesFrame : Event → Bool
  | .accepted _ | .inputBroken => true
  | _ => false

/-- A writer that waits for the worker's input stays as it is until its frame moves. -/
lemma writer_step (hheld : s.writer.isHeld = true) (he : e.movesFrame = false) (now : Instant) :
    (s.step now e).writer = s.writer := by
  obtain ⟨b, rest, hwriter⟩ := Writer.exists_of_isHeld hheld
  have hact := act_step s now e
  generalize hw : (s.step now e).works = w at hact
  have hgoal : (s.step now e).writer = w.writer := congrArg Works.writer hw
  rw [hgoal]
  cases hact with
  | stopped t _ hstop => cases hstop <;> rfl
  | taken _ _ h _ => cases hwriter.symm.trans h
  | toldToClose _ h _ => cases hwriter.symm.trans h
  | written h => cases hwriter.symm.trans h
  | accepted _ _ _ => cases he
  | broken _ _ _ => cases he
  | _ => rfl

/-- **A writer that waits for the worker's input** stays as it is in a run in which its frame does
not move. -/
lemma writer_run (hheld : s.writer.isHeld = true) (ms : List Moment)
    (hms : ∀ m ∈ ms, m.event.movesFrame = false) : (s.run ms).writer = s.writer := by
  induction ms generalizing s with
  | nil => rfl
  | cons m ms ih =>
    have hsame := writer_step hheld (hms m List.mem_cons_self) m.now
    exact (ih (hsame ▸ hheld) fun m' hm' => hms m' (List.mem_cons_of_mem _ hm')).trans hsame

/-- A writer that waits for the worker's input can take no step. -/
lemma stepWriter_of_held (hheld : s.writer.isHeld = true) : s.stepWriter = none := by
  obtain ⟨b, rest, hwriter⟩ := Writer.exists_of_isHeld hheld
  rw [stepWriter, hwriter]

/-- When the worker's input breaks, a writer that waits for it is over. -/
lemma run_inputBroken (hheld : s.writer.isHeld = true) (now : Instant) (ms : List Moment) :
    s.run (⟨now, .inputBroken⟩ :: ms) = s.endWriter.run ms := by
  obtain ⟨b, rest, hwriter⟩ := Writer.exists_of_isHeld hheld
  have hbroken : s.breakInput = s.endWriter := by rw [breakInput, hwriter]
  rw [← hbroken]
  rfl

/-! ## Long frames -/

/-- The fields of the frame of a request, in the order of their keys. -/
lemma requestFrame_eq (id : Nat) (method : Method) (params : Json) :
    requestFrame id method params = .obj [("id", .ofNat id), ("jsonrpc", .str "2.0"),
      ("method", .str method.name), ("params", params)] := by
  have hversion : Json.setField "jsonrpc" (.str "2.0") [] = [("jsonrpc", .str "2.0")] := rfl
  have hid : Json.setField "id" (.ofNat id) [("jsonrpc", .str "2.0")] =
      [("id", .ofNat id), ("jsonrpc", .str "2.0")] := if_pos (by decide)
  -- The other two come after all that are there.
  have hmethod : ∀ f ∈ [("id", Json.ofNat id), ("jsonrpc", .str "2.0")], f.1 < "method" := by
    simp only [List.forall_mem_cons, List.not_mem_nil, false_implies, implies_true, and_true]
    decide
  have hparams : ∀ f ∈ [("id", Json.ofNat id), ("jsonrpc", .str "2.0"),
      ("method", .str method.name)], f.1 < "params" := by
    simp only [List.forall_mem_cons, List.not_mem_nil, false_implies, implies_true, and_true]
    decide
  simp only [requestFrame, Json.object, Json.sortFields, List.foldl_cons, List.foldl_nil, hversion,
    hid, Json.setField_append hmethod, List.cons_append, List.nil_append,
    Json.setField_append hparams]

/-- The frame of a request is longer than what its parameters are written as. -/
lemma length_written_lt (id : Nat) (method : Method) (params : Json) :
    (Json.written params).length < (frameOf (requestFrame id method params)).length := by
  have hrender : Text.encode (requestFrame id method params).render =
      Json.written (requestFrame id method params) := Text.encode_ofList _
  rw [frameOf_eq, hrender, requestFrame_eq, Json.written_obj]
  simp only [Json.writtenFields, List.flatMap_cons, List.length_append, List.length_cons]
  omega

/-- A text is written as one byte or more for each of its characters. -/
lemma length_le_written (n : Nat) :
    n ≤ (Json.written (.str (String.ofList (List.replicate n 'x')))).length := by
  have hspell : (Text.spell ((List.replicate n 'x').flatMap Json.escape)).length = n := by
    induction n with
    | zero => rfl
    | succ n ih =>
      rw [List.replicate_succ, List.flatMap_cons, Text.spell_append, List.length_append, ih,
        Nat.add_comm]
      rfl
  rw [Json.written_str, String.toList_ofList, List.length_cons, List.length_append, hspell]
  omega

/-- Parameters that take more bytes than a pipe holds. -/
def bulk : Json := .str (String.ofList (List.replicate pipeCapacity 'x'))

/-- A pipe does not hold the frame of a request with such parameters. -/
lemma pipeCapacity_lt_bulk (id : Nat) (method : Method) :
    pipeCapacity < (frameOf (requestFrame id method bulk)).length :=
  Nat.lt_of_le_of_lt (length_le_written pipeCapacity) (length_written_lt id method bulk)

end Session

end LintPool
