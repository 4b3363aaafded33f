import LintPool.Proofs.Frame.Pieces

set_option autoImplicit false

/-!
# What a stream of frames is

A stream of frames is described here by rules, one for each way that it can go on or end: a header
is the lines up to the first blank one, the last length that it gives counts, and the body is as
many bytes as that. What the decoder makes of a stream that comes in pieces is what the rules say
of the whole.

## Main definitions

* `LintPool.HeaderGives` — the lengths that a header gives, and what follows the header.
* `LintPool.HeaderFails` — why an input starts with no header.
* `LintPool.Reads` — the messages of a stream, and how it ends.

## Main results

* `LintPool.framesOf_eq_iff` — what is read from a whole stream.
* `LintPool.FrameDecoder.readAll_eq_iff` — what is read from a stream in pieces.
-/

namespace LintPool

/-- An input starts with a header that gives the lengths `ns`, one after the other, and `after` is
what follows its blank line. -/
inductive HeaderGives : Bytes → List Nat → Bytes → Prop
  | blank {input line rest : Bytes} (hline : FirstLine input line rest)
    (h : LineSays line (.ok .blank)) : HeaderGives input [] rest
  | length {input line rest after : Bytes} {n : Nat} {ns : List Nat}
    (hline : FirstLine input line rest) (h : LineSays line (.ok (.length n)))
    (hmore : HeaderGives rest ns after) : HeaderGives input (n :: ns) after
  | other {input line rest after : Bytes} {ns : List Nat} (hline : FirstLine input line rest)
    (h : LineSays line (.ok .other)) (hmore : HeaderGives rest ns after) :
    HeaderGives input ns after

/-- An input starts with no header: it ends before the blank line, or a line before that is at
fault. -/
inductive HeaderFails : Bytes → FrameFault → Prop
  | ended : HeaderFails [] .endedInHeader
  | line {input line rest : Bytes} {fault : FrameFault} (hline : FirstLine input line rest)
    (h : LineSays line (.error fault)) : HeaderFails input fault
  | goesOn {input line rest : Bytes} {meaning : HeaderLine} {fault : FrameFault}
    (hline : FirstLine input line rest) (h : LineSays line (.ok meaning))
    (hgoesOn : meaning ≠ .blank) (hmore : HeaderFails rest fault) : HeaderFails input fault

/-- A stream has these messages, and ends so. -/
inductive Reads : Bytes → List Json → StreamEnd → Prop
  /-- No byte remains. -/
  | clean : Reads [] [] .clean
  /-- There is no header. -/
  | noHeader {input : Bytes} {fault : FrameFault} (hsome : input ≠ [])
    (h : HeaderFails input fault) : Reads input [] (.faulty fault)
  /-- The header gives no length. -/
  | noLength {input rest : Bytes} (h : HeaderGives input [] rest) :
    Reads input [] (.faulty .noLength)
  /-- The last length is above the limit. -/
  | tooLong {input rest : Bytes} {ns : List Nat} {n : Nat} (h : HeaderGives input ns rest)
    (hlast : ns.getLast? = some n) (hlong : 33554432 < n) : Reads input [] (.faulty (.tooLong n))
  /-- Fewer bytes remain than that. -/
  | endedInBody {input rest : Bytes} {ns : List Nat} {n : Nat} (h : HeaderGives input ns rest)
    (hlast : ns.getLast? = some n) (hfits : n ≤ 33554432) (hshort : rest.length < n) :
    Reads input [] (.faulty .endedInBody)
  /-- Those bytes are no document. -/
  | badBody {input body after : Bytes} {ns : List Nat} {complaint : Json.Complaint}
    (h : HeaderGives input ns (body ++ after)) (hlast : ns.getLast? = some body.length)
    (hfits : body.length ≤ 33554432) (hbody : Json.ofBytes body = .error complaint) :
    Reads input [] (.faulty (.badBody complaint))
  /-- They are one, and the stream goes on after them. -/
  | frame {input body after : Bytes} {ns : List Nat} {message : Json} {messages : List Json}
    {ending : StreamEnd} (h : HeaderGives input ns (body ++ after))
    (hlast : ns.getLast? = some body.length) (hfits : body.length ≤ 33554432)
    (hbody : Json.ofBytes body = .ok message) (hmore : Reads after messages ending) :
    Reads input (message :: messages) ending

/-! ## Headers -/

/-- What follows a first line is shorter. -/
lemma FirstLine.length_lt {input line rest : Bytes} (h : FirstLine input line rest) :
    rest.length < input.length := by
  cases h with
  | ended h => simp; omega
  | unended hsome h => exact List.length_pos_iff.2 hsome

/-- What follows a header is shorter. -/
lemma HeaderGives.length_lt {input rest : Bytes} {ns : List Nat} (h : HeaderGives input ns rest) :
    rest.length < input.length := by
  induction h with
  | blank hline _ => exact hline.length_lt
  | length hline _ _ ih => exact ih.trans hline.length_lt
  | other hline _ _ ih => exact ih.trans hline.length_lt

/-- A header is read line by line. -/
lemma takeHeader_of_firstLine {input line rest : Bytes} (h : FirstLine input line rest)
    (length : Option Nat) : takeHeader length input =
      match headerLine line with
      | .error fault => .error fault
      | .ok .blank => .ok (length, rest)
      | .ok .other => takeHeader length rest
      | .ok (.length n) => takeHeader (some n) rest := by
  obtain ⟨hsome, htake⟩ := firstLine_iff.1 h
  obtain ⟨b, more, rfl⟩ := List.exists_cons_of_ne_nil hsome
  rw [takeHeader.eq_def]
  cases hline : headerLine line with
  | error fault => simp [htake, hline]
  | ok meaning => cases meaning <;> simp [htake, hline]

/-- The header that an input starts with is read, and its last length counts. -/
lemma takeHeader_of_headerGives {input rest : Bytes} {ns : List Nat}
    (h : HeaderGives input ns rest) (length : Option Nat) :
    takeHeader length input = .ok (ns.getLast?.or length, rest) := by
  induction h generalizing length with
  | blank hline h => rw [takeHeader_of_firstLine hline, headerLine_of_lineSays h]; rfl
  | length hline h _ ih =>
    rw [takeHeader_of_firstLine hline, headerLine_of_lineSays h]
    simp [ih, List.getLast?_cons, Option.or_some]
  | other hline h _ ih =>
    rw [takeHeader_of_firstLine hline, headerLine_of_lineSays h]
    exact ih length

/-- The fault in place of a header is found. -/
lemma takeHeader_of_headerFails {input : Bytes} {fault : FrameFault} (h : HeaderFails input fault)
    (length : Option Nat) : takeHeader length input = .error fault := by
  induction h generalizing length with
  | ended => rw [takeHeader]
  | line hline h => rw [takeHeader_of_firstLine hline, headerLine_of_lineSays h]
  | @goesOn _ _ _ meaning _ hline h hgoesOn _ ih =>
    rw [takeHeader_of_firstLine hline, headerLine_of_lineSays h]
    cases meaning with
    | blank => exact absurd rfl hgoesOn
    | other => exact ih length
    | length n => exact ih (some n)

/-- An input that goes on has a first line. -/
lemma exists_firstLine {input : Bytes} (h : input ≠ []) :
    ∃ line rest, FirstLine input line rest :=
  ⟨_, _, firstLine_iff.2 ⟨h, rfl⟩⟩

/-- An input starts with a header, or there is a fault. -/
lemma headerGives_or_headerFails (input : Bytes) :
    (∃ ns rest, HeaderGives input ns rest) ∨ ∃ fault, HeaderFails input fault := by
  induction hn : input.length using Nat.strongRecOn generalizing input with
  | ind n ih =>
    subst hn
    by_cases hsome : input = []
    · subst hsome
      exact .inr ⟨_, .ended⟩
    · obtain ⟨line, rest, hline⟩ := exists_firstLine hsome
      have hmore := ih _ hline.length_lt rest rfl
      obtain ⟨meaning, h⟩ := exists_lineSays line
      cases meaning with
      | error fault => exact .inr ⟨fault, .line hline h⟩
      | ok meaning =>
        by_cases hblank : meaning = .blank
        · subst hblank
          exact .inl ⟨_, _, .blank hline h⟩
        · rcases hmore with ⟨ns, after, hmore⟩ | ⟨fault, hmore⟩
          · cases meaning with
            | blank => exact absurd rfl hblank
            | other => exact .inl ⟨_, _, .other hline h hmore⟩
            | length n => exact .inl ⟨_, _, .length hline h hmore⟩
          · exact .inr ⟨fault, .goesOn hline h hblank hmore⟩

/-! ## Streams -/

/-- An input with a header is not empty. -/
lemma HeaderGives.ne_nil {input rest : Bytes} {ns : List Nat} (h : HeaderGives input ns rest) :
    input ≠ [] :=
  List.ne_nil_of_length_pos (Nat.zero_lt_of_lt h.length_lt)

/-- After a header, the frames are those of the body that its last length asks for. -/
lemma framesOf_of_headerGives {input rest : Bytes} {ns : List Nat} (h : HeaderGives input ns rest) :
    framesOf input = framesAfter (frameAfter (.ok (ns.getLast?, rest))) := by
  rw [framesOf_eq h.ne_nil, takeHeader_of_headerGives h, Option.or_none]

/-- A length up to the limit is accepted. -/
lemma acceptLength_of_le {n : Nat} (h : n ≤ 33554432) : acceptLength (some n) = .ok n :=
  if_neg (not_lt.2 h)

/-- A length beyond the limit is refused. -/
lemma acceptLength_of_lt {n : Nat} (h : 33554432 < n) :
    acceptLength (some n) = .error (.tooLong n) :=
  if_pos h

/-- A body that is there is taken whole. -/
lemma takeBody_append (body after : Bytes) :
    takeBody body.length (body ++ after) = (decodeBody body).map (·, after) := by
  rw [takeBody, if_neg (by simp), List.take_left, List.drop_left]
  cases decodeBody body <;> rfl

/-- What the rules say of a stream is read from it. -/
lemma framesOf_of_reads {input : Bytes} {messages : List Json} {ending : StreamEnd}
    (h : Reads input messages ending) : framesOf input = (messages, ending) := by
  induction h with
  | clean => exact framesOf_nil
  | noHeader hsome h => rw [framesOf_eq hsome, takeHeader_of_headerFails h]; rfl
  | noLength h => rw [framesOf_of_headerGives h]; rfl
  | tooLong h hlast hlong =>
    rw [framesOf_of_headerGives h, hlast, frameAfter, acceptLength_of_lt hlong]
    rfl
  | endedInBody h hlast hfits hshort =>
    rw [framesOf_of_headerGives h, hlast, frameAfter, acceptLength_of_le hfits]
    simp only [takeBody, if_pos hshort]
    rfl
  | badBody h hlast hfits hbody =>
    rw [framesOf_of_headerGives h, hlast, frameAfter, acceptLength_of_le hfits]
    simp only [takeBody_append, decodeBody, hbody]
    rfl
  | frame h hlast hfits hbody _ ih =>
    rw [framesOf_of_headerGives h, hlast, frameAfter, acceptLength_of_le hfits]
    simp only [takeBody_append, decodeBody, hbody]
    rw [Except.map, framesAfter, ih]

/-- The rules say something of every stream. -/
lemma exists_reads (input : Bytes) : ∃ messages ending, Reads input messages ending := by
  induction hn : input.length using Nat.strongRecOn generalizing input with
  | ind n ih =>
    subst hn
    by_cases hsome : input = []
    · subst hsome
      exact ⟨_, _, .clean⟩
    rcases headerGives_or_headerFails input with ⟨ns, rest, h⟩ | ⟨fault, h⟩
    · cases hlast : ns.getLast? with
      | none =>
        rw [List.getLast?_eq_none_iff.1 hlast] at h
        exact ⟨_, _, .noLength h⟩
      | some n =>
        by_cases hlong : 33554432 < n
        · exact ⟨_, _, .tooLong h hlast hlong⟩
        by_cases hshort : rest.length < n
        · exact ⟨_, _, .endedInBody h hlast (not_lt.1 hlong) hshort⟩
        obtain ⟨body, after, rfl, rfl⟩ : ∃ body after, rest = body ++ after ∧ n = body.length :=
          ⟨rest.take n, rest.drop n, (List.take_append_drop n rest).symm,
            (List.length_take_of_le (not_lt.1 hshort)).symm⟩
        cases hbody : Json.ofBytes body with
        | error complaint => exact ⟨_, _, .badBody h hlast (not_lt.1 hlong) hbody⟩
        | ok message =>
          have hshorter : after.length < input.length := by
            refine lt_of_le_of_lt ?_ h.length_lt
            rw [List.length_append]
            exact Nat.le_add_left _ _
          obtain ⟨messages, ending, hmore⟩ := ih _ hshorter after rfl
          exact ⟨_, _, .frame h hlast (not_lt.1 hlong) hbody hmore⟩
    · exact ⟨_, _, .noHeader hsome h⟩

/-- **What is read from a whole stream is what the rules say of it.** -/
theorem framesOf_eq_iff {input : Bytes} {messages : List Json} {ending : StreamEnd} :
    framesOf input = (messages, ending) ↔ Reads input messages ending := by
  refine ⟨fun h => ?_, framesOf_of_reads⟩
  obtain ⟨messages', ending', hreads⟩ := exists_reads input
  cases (framesOf_of_reads hreads).symm.trans h
  exact hreads

/-- **What is read from a stream in pieces is what the rules say of the whole stream**, wherever
it is cut. -/
theorem FrameDecoder.readAll_eq_iff (pieces : List Bytes) (messages : List Json)
    (ending : StreamEnd) :
    FrameDecoder.readAll pieces = (messages, ending) ↔ Reads pieces.flatten messages ending := by
  rw [FrameDecoder.readAll_eq_framesOf, framesOf_eq_iff]

end LintPool
