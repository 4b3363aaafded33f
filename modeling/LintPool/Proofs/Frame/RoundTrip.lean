import LintPool.Frame.Writer
import LintPool.Proofs.Frame.Streams
import LintPool.Proofs.Json.RoundTrip

set_option autoImplicit false

/-!
# Frames that are written and read

What is written as frames is read as the messages that were written, wherever the bytes are cut.
A frame ends with its last byte, so what follows it is left untouched.

## Main definitions

* `LintPool.Framable` — the messages that a frame can carry.

## Main results

* `LintPool.headerGives_frameOf` — the header of a frame gives the length of its body.
* `LintPool.feed_frameOf` — a frame yields its message with its last byte.
* `LintPool.frames_read_back` — messages that are written are read, for every cut.
-/

namespace LintPool

open Text (spell)

/-- A message that a frame can carry: its compact form is not too long, and is read as the
message. -/
structure Framable (message : Json) : Prop where
  /-- The compact form is not too long. -/
  fits : (Text.encode message.render).length ≤ 33554432
  /-- The compact form is read as the message. -/
  readsBack : Json.ofBytes (Text.encode message.render) = .ok message

/-! ## The header of a frame -/

/-- The line that gives a length, up to its line feed. -/
def lengthLine (n : Nat) : String :=
  "Content-Length: " ++ toString n ++ "\r"

/-- A digit is no blank. -/
lemma not_isBlank_of_isDigit {c : Char} (h : c.isDigit = true) : Text.isBlank c = false := by
  have hrange := Json.toNat_of_isDigit h
  simp only [Text.isBlank, Bool.or_eq_false_iff, Bool.and_eq_false_iff, decide_eq_false_iff_not,
    beq_eq_false_iff_ne, ne_eq]
  omega

/-- The characters of that line. -/
lemma toList_lengthLine (n : Nat) : (lengthLine n).toList =
    "Content-Length".toList ++ ':' :: ' ' :: (Nat.toDigits 10 n ++ ['\r']) := by
  change ("Content-Length: " ++ toString n ++ "\r").toList = _
  simp

/-- The line that gives a length has no line feed before its end. -/
lemma notMem_lengthLine (n : Nat) : 0x0A ∉ Text.encode (lengthLine n) := by
  have hdigits : '\n' ∉ Nat.toDigits 10 n := fun h =>
    absurd (Nat.isDigit_of_mem_toDigits (by decide) (by decide) h) (by decide)
  have hline : '\n' ∉ (lengthLine n).toList := by simp [toList_lengthLine, hdigits]
  exact Text.notMem_spell_of_lt (by decide) hline

/-- A frame is the line that gives the length, a blank line, and the body. -/
lemma frameOf_eq (message : Json) : frameOf message =
    Text.encode (lengthLine (Text.encode message.render).length) ++
      0x0A :: 0x0D :: 0x0A :: Text.encode message.render := by
  have hheader : ∀ n : Nat, Text.encode s!"Content-Length: {n}\r\n\r\n" =
      Text.encode (lengthLine n) ++ [0x0A, 0x0D, 0x0A] := by
    intro n
    have hchars : (s!"Content-Length: {n}\r\n\r\n").toList =
        (lengthLine n).toList ++ ['\n', '\r', '\n'] := by
      change ("Content-Length: " ++ toString n ++ "\r\n\r\n").toList = _
      simp [toList_lengthLine]
    rw [Text.encode, Text.encode, hchars, List.flatMap_append]
    rfl
  rw [frameOf, hheader, List.append_assoc]
  rfl

/-- The line that gives a length says so. -/
lemma lineSays_lengthLine {n : Nat} (h : n < 2 ^ 64) :
    LineSays (Text.encode (lengthLine n) ++ [0x0A]) (.ok (.length n)) := by
  have hdigits : ∀ c ∈ Nat.toDigits 10 n, c.isDigit = true := fun c hc =>
    Nat.isDigit_of_mem_toDigits (by decide) (by decide) hc
  have hname : NamesLength "Content-Length".toList := by
    refine ⟨by simp, "Content-Length".toList, ?_, by simp⟩
    rw [Text.trimmed_iff]
    decide +kernel
  have hvalue : Text.Trimmed (' ' :: (Nat.toDigits 10 n ++ ['\r', '\n'])) (Nat.toDigits 10 n) := by
    have hleft : ∀ c ∈ [' '], Text.isBlank c = true := by simp [Text.isBlank]
    have hright : ∀ c ∈ ['\r', '\n'], Text.isBlank c = true := by simp [Text.isBlank]
    refine ⟨⟨[' '], ['\r', '\n'], rfl, hleft, hright⟩, fun c hc => ?_, fun c hc => ?_⟩
    · exact not_isBlank_of_isDigit (hdigits c (List.mem_of_mem_head? hc))
    · exact not_isBlank_of_isDigit (hdigits c (List.mem_of_getLast? hc))
  have hlength : IsLength (Nat.toDigits 10 n) n :=
    ⟨_, .inl rfl, Nat.toDigits_ne_nil, hdigits, Nat.ofDigitChars_ten_toDigits.symm, h⟩
  have hline : Text.encode (lengthLine n) ++ [0x0A] =
      Text.encode (String.ofList ((lengthLine n).toList ++ ['\n'])) := by
    rw [Text.encode_ofList, Text.spell_append]
    rfl
  rw [hline]
  refine .length ?_ hname hvalue hlength
  rw [String.toList_ofList, toList_lengthLine]
  simp

/-- The line after it is blank. -/
lemma lineSays_blank : LineSays [0x0D, 0x0A] (.ok .blank) := by
  have hbytes : ([0x0D, 0x0A] : Bytes) = Text.encode "\r\n" := by decide +kernel
  rw [hbytes]
  exact .blank (by simp; decide)

/-- The header of a frame gives the length of its body, and the body follows. -/
lemma headerGives_frameOf {message : Json} (h : Framable message) (rest : Bytes) :
    HeaderGives (frameOf message ++ rest) [(Text.encode message.render).length]
      (Text.encode message.render ++ rest) := by
  have hlength := lineSays_lengthLine (lt_of_le_of_lt h.fits (by decide))
  have hfeed : 0x0A ∉ ([0x0D] : Bytes) := by decide
  rw [frameOf_eq, List.append_assoc]
  exact .length (.ended (notMem_lengthLine _)) hlength
    (.blank (.ended hfeed) lineSays_blank)

/-- The frames of messages are read as the messages. -/
lemma reads_flatMap_frameOf {messages : List Json} (h : ∀ m ∈ messages, Framable m) :
    Reads (messages.flatMap frameOf) messages .clean := by
  induction messages with
  | nil => exact .clean
  | cons message messages ih =>
    obtain ⟨hfirst, hmore⟩ := List.forall_mem_cons.1 h
    exact .frame (headerGives_frameOf hfirst _) rfl hfirst.fits hfirst.readsBack (ih hmore)

/-! ## One frame -/

/-- A message is at least one byte. -/
lemma Framable.body_ne_nil {message : Json} (h : Framable message) :
    Text.encode message.render ≠ [] :=
  Json.ne_nil_of_ofBytes h.readsBack

/-- **A frame is taken off the front of a stream**, and what follows it is left. -/
lemma takeFrame_frameOf {message : Json} (h : Framable message) (rest : Bytes) :
    takeFrame (frameOf message ++ rest) = .ok (message, rest) := by
  rw [takeFrame_eq, takeHeader_of_headerGives (headerGives_frameOf h rest), frameAfter]
  simp only [List.getLast?_singleton, Option.or_none, acceptLength_of_le h.fits, takeBody_append,
    decodeBody, h.readsBack]
  rfl

namespace FrameDecoder

/-- Bytes inside a line are kept. -/
lemma feed_header (length : Option Nat) {bytes : Bytes} (h : 0x0A ∉ bytes) (line : Bytes) :
    feed bytes (.header length line) = ([], .header length (bytes.reverse ++ line)) := by
  induction bytes generalizing line with
  | nil => rfl
  | cons b bytes ih =>
    obtain ⟨hb, hbytes⟩ := not_or.1 (mt List.mem_cons.2 h)
    simp [feed_cons, push, pushHeader, if_neg (Ne.symm hb), ih hbytes]

/-- A line feed ends a line. -/
lemma feed_line (length : Option Nat) {text : Bytes} (h : 0x0A ∉ text) :
    feed (text ++ [0x0A]) (.header length []) =
      ((endLine length (text ++ [0x0A])).1.toList, (endLine length (text ++ [0x0A])).2) := by
  rw [feed_append, feed_header length h]
  simp [feed_cons, push, pushHeader]

/-- Bytes inside a body are kept. -/
lemma feed_body {bytes : Bytes} {missing : Nat} (h : bytes.length < missing) (taken : Bytes) :
    feed bytes (.body missing taken) =
      ([], .body (missing - bytes.length) (bytes.reverse ++ taken)) := by
  induction bytes generalizing missing taken with
  | nil => rfl
  | cons b bytes ih =>
    rw [List.length_cons] at h
    have hmore : ¬ missing ≤ 1 := by omega
    simp [feed_cons, push, if_neg hmore, ih (show bytes.length < missing - 1 by omega)]
    omega

/-- Between two frames, a byte starts the first line of a header. -/
lemma feed_idle {bytes : Bytes} (h : bytes ≠ []) :
    feed bytes .idle = feed bytes (.header none []) := by
  obtain ⟨b, more, rfl⟩ := List.exists_cons_of_ne_nil h
  rw [feed_cons, feed_cons]
  rfl

/-- The header of a frame leaves the decoder at the start of the body. -/
lemma feed_headerOf {n : Nat} (hpos : 0 < n) (hfits : n ≤ 33554432) :
    feed (Text.encode (lengthLine n) ++ [0x0A] ++ [0x0D, 0x0A]) .idle = ([], .body n []) := by
  have hlength : endLine none (Text.encode (lengthLine n) ++ [0x0A]) =
      (none, .header (some n) []) := by
    have hline := lineSays_lengthLine (lt_of_le_of_lt hfits (show 33554432 < 2 ^ 64 by decide))
    rw [endLine, headerLine_of_lineSays hline]
  have hblank : endLine (some n) [0x0D, 0x0A] = (none, .body n []) := by
    obtain ⟨k, rfl⟩ := Nat.exists_eq_succ_of_ne_zero hpos.ne'
    rw [endLine, headerLine_of_lineSays lineSays_blank]
    simp only [endHeader, acceptLength_of_le hfits]
  have hfeed : 0x0A ∉ ([0x0D] : Bytes) := by decide
  have hsecond := feed_line (some n) hfeed
  rw [List.cons_append, List.nil_append, hblank] at hsecond
  rw [feed_idle (by simp), feed_append, feed_line none (notMem_lengthLine n),
    hlength, hsecond]
  rfl

/-- **A frame yields its message with its last byte**, and nothing before. -/
theorem feed_frameOf {message : Json} (h : Framable message) {before : Bytes} {last : UInt8}
    (hlast : frameOf message = before ++ [last]) :
    (feed before .idle).1 = [] ∧ (feed before .idle).2.push last = (some message, .idle) := by
  obtain ⟨init, b, hbody⟩ := (List.eq_nil_or_concat _).resolve_left h.body_ne_nil
  rw [List.concat_eq_append] at hbody
  have hframe : frameOf message = Text.encode (lengthLine (init.length + 1)) ++ [0x0A] ++
      [0x0D, 0x0A] ++ init ++ [b] := by
    rw [frameOf_eq, hbody]
    simp
  obtain ⟨hbefore, hb⟩ := List.append_inj' (hlast.symm.trans hframe) rfl
  obtain rfl : last = b := List.singleton_inj.1 hb
  subst hbefore
  have hfits : init.length + 1 ≤ 33554432 := by
    have := h.fits
    rwa [hbody, List.length_append, List.length_singleton] at this
  have hread : decodeBody (init ++ [last]) = .ok message := by
    rw [decodeBody, ← hbody, h.readsBack]
  rw [feed_append, feed_headerOf (Nat.succ_pos _) hfits, feed_body (Nat.lt_succ_self _)]
  simp [push, endBody, hread]

/-- After a frame, the decoder is where it was. -/
lemma feed_frameOf_append {message : Json} (h : Framable message) (rest : Bytes) :
    feed (frameOf message ++ rest) .idle =
      (message :: (feed rest .idle).1, (feed rest .idle).2) := by
  have hsome : frameOf message ≠ [] := by
    simp [frameOf_eq]
  obtain ⟨before, last, hlast⟩ := (List.eq_nil_or_concat _).resolve_left hsome
  rw [List.concat_eq_append] at hlast
  obtain ⟨hnone, hpush⟩ := feed_frameOf h hlast
  rw [feed_append, hlast, feed_append, feed_cons, hpush, hnone]
  rfl

end FrameDecoder

/-- **Messages that are written are read.** However the bytes of their frames are cut, reading
yields the messages in order, and then the end of the stream; a frame yields its message with its
last byte, whatever follows it, and leaves what follows it as it is. The messages of which this is
true include all that are built without floating point numbers, from integers from -2⁶³ to
2⁶⁴ - 1, and nested at most 127 deep, unless they are too long. -/
theorem frames_read_back :
    (∀ messages : List Json, (∀ m ∈ messages, Framable m) → ∀ pieces : List Bytes,
      pieces.flatten = messages.flatMap frameOf →
        FrameDecoder.readAll pieces = (messages, .clean)) ∧
    (∀ (message : Json) (rest : Bytes), Framable message →
      takeFrame (frameOf message ++ rest) = .ok (message, rest) ∧
      FrameDecoder.feed (frameOf message ++ rest) .idle =
        (message :: (FrameDecoder.feed rest .idle).1, (FrameDecoder.feed rest .idle).2) ∧
      ∀ before last, frameOf message = before ++ [last] →
        (FrameDecoder.feed before .idle).1 = [] ∧
        (FrameDecoder.feed before .idle).2.push last = (some message, .idle)) ∧
    ∀ message : Json, Json.Plain 127 message →
      Json.ofBytes (Text.encode message.render) = .ok message := by
  refine ⟨fun messages h pieces hpieces => ?_, fun message rest h => ⟨takeFrame_frameOf h rest,
    FrameDecoder.feed_frameOf_append h rest,
    fun before last hlast => FrameDecoder.feed_frameOf h hlast⟩,
    fun message h => Json.ofBytes_render h⟩
  rw [FrameDecoder.readAll_eq_framesOf, hpieces]
  exact framesOf_of_reads (reads_flatMap_frameOf h)

/-- Two messages, with text that looks like a header, letters of two bytes, escapes, and the
integers at the ends of their range. -/
def sampleMessages : List Json :=
  [.object [("text", .str "Content-Length: 5\r\n\r\né"), ("a\u0000\"", .null)],
    .arr [.int (-9223372036854775808), .int 18446744073709551615, .bool true, .arr []]]

/-- The messages of the sample can be carried. -/
lemma framable_sampleMessages : ∀ m ∈ sampleMessages, Framable m := by
  have hfits : ∀ m ∈ sampleMessages, (Text.encode m.render).length ≤ 33554432 := by decide +kernel
  have hplain : ∀ m ∈ sampleMessages, Json.Plain 127 m := by
    simp only [sampleMessages, List.forall_mem_cons, List.not_mem_nil, false_implies,
      implies_true, and_true]
    refine ⟨.object ?_, .arr ?_⟩
    · simp only [List.forall_mem_cons, List.not_mem_nil, false_implies, implies_true, and_true]
      exact ⟨.str _, .null⟩
    · simp only [List.forall_mem_cons, List.not_mem_nil, false_implies, implies_true, and_true]
      exact ⟨.int (by decide) (by decide), .int (by decide) (by decide), .bool true, .arr nofun⟩
  exact fun m hm => ⟨hfits m hm, Json.ofBytes_render (hplain m hm)⟩

/-- The sample is read one byte at a time, and its second message in front of the start of
another. -/
theorem sampleMessages_read_back :
    FrameDecoder.readAll ((sampleMessages.flatMap frameOf).map fun b => [b]) =
        (sampleMessages, .clean) ∧
      ∃ message ∈ sampleMessages,
        takeFrame (frameOf message ++ [0x43, 0x6F]) = .ok (message, [0x43, 0x6F]) := by
  refine ⟨frames_read_back.1 sampleMessages framable_sampleMessages _ ?_, _,
    List.mem_cons_of_mem _ List.mem_cons_self, ?_⟩
  · rw [← List.flatMap_def, List.flatMap_singleton']
  · exact (frames_read_back.2.1 _ [0x43, 0x6F]
      (framable_sampleMessages _ (List.mem_cons_of_mem _ List.mem_cons_self))).1

end LintPool
