import LintPool.Proofs.Frame.Streams
import LintPool.Search.Lines

set_option autoImplicit false

/-!
# What a search in the output of a command comes to

A search takes the output byte by byte and in the pieces in which it comes, and it stops a command
that has said enough. What it comes to is described here without either: by the lines of all that
the command would write, one after the other, and by how the command would end.

## Main definitions

* `LintPool.writtenTo` — all that was written to one of two sinks.
* `LintPool.Lines` — the lines of an output.
* `LintPool.LineText` — what the matcher is given of a line.
* `LintPool.Silent` — what a search comes to when no line decides it.
* `LintPool.Searched` — what a search comes to.

## Main results

* `LintPool.LineSearch.foldl_take` — the pieces in which bytes come make no difference.
* `LintPool.searched_findLine` — a search over a transcript comes to what its lines say.
* `LintPool.searchOutput_eq_findLine` — stopping the command makes no difference.
* `LintPool.first_decisive_line_wins` — both together.
-/

namespace LintPool

/-! ## Outputs and their lines -/

/-- All that was written to a sink, of pieces that were written to either. -/
def writtenTo (sink : Sink) (pieces : List (Sink × Bytes)) : Bytes :=
  (pieces.filter (·.1 = sink)).flatMap (·.2)

/-- Nothing is written before anything is. -/
@[simp] lemma writtenTo_nil (sink : Sink) : writtenTo sink [] = [] := rfl

/-- The lines of an output, each with its line feed; the last one may have none. -/
inductive Lines : Bytes → List Bytes → Prop
  | nil : Lines [] []
  | cons {output line rest : Bytes} {lines : List Bytes} (h : FirstLine output line rest)
    (hrest : Lines rest lines) : Lines output (line :: lines)

/-- Every output has lines. -/
lemma exists_lines (output : Bytes) : ∃ lines, Lines output lines := by
  induction hlength : output.length using Nat.strongRecOn generalizing output with
  | ind n ih =>
    cases output with
    | nil => exact ⟨[], .nil⟩
    | cons b output =>
      obtain ⟨line, rest, hfirst⟩ := exists_firstLine (List.cons_ne_nil b output)
      obtain ⟨lines, hlines⟩ := ih _ (hlength ▸ hfirst.length_lt) _ rfl
      exact ⟨_, .cons hfirst hlines⟩

/-- What the matcher is given of a line that is text. -/
inductive LineText : Bytes → String → Prop
  /-- A carriage return and a line feed at the end are left out. -/
  | crlf (s : String) : LineText (Text.encode s ++ [0x0D, 0x0A]) s
  /-- So is a line feed without a carriage return before it. -/
  | lf {s : String} (h : s.toList.getLast? ≠ some '\r') : LineText (Text.encode s ++ [0x0A]) s
  /-- A line without a line feed is given as it is. -/
  | bare {s : String} (h : '\n' ∉ s.toList) : LineText (Text.encode s) s

/-- A carriage return and a line feed at the end are left out. -/
lemma withoutEnd_crlf (cs : List Char) : withoutEnd (cs ++ ['\r', '\n']) = cs := by
  simp [withoutEnd]

/-- A line feed alone is left out. -/
lemma withoutEnd_lf {cs : List Char} (h : cs.getLast? ≠ some '\r') :
    withoutEnd (cs ++ ['\n']) = cs := by
  rw [List.getLast?_eq_head?_reverse] at h
  rw [withoutEnd, List.reverse_append]
  split
  · rename_i rest heq
    have hlast : cs.reverse = '\r' :: rest := (List.cons.inj heq).2
    exact absurd (hlast ▸ rfl) h
  · rename_i rest _ heq
    have hrest : cs.reverse = rest := (List.cons.inj heq).2
    rw [← hrest, List.reverse_reverse]
  · rename_i hother
    exact absurd rfl (hother cs.reverse)

/-- A line without a line feed at its end stays as it is. -/
lemma withoutEnd_bare {cs : List Char} (h : '\n' ∉ cs) : withoutEnd cs = cs := by
  rw [← List.mem_reverse] at h
  unfold withoutEnd
  split
  · rename_i heq
    exact absurd (heq ▸ List.mem_cons_self) h
  · rename_i heq
    exact absurd (heq ▸ List.mem_cons_self) h
  · rfl

/-- What was a line of a text, and what the matcher is given of it. -/
lemma LineText.exists_text {line : Bytes} {text : String} (h : LineText line text) :
    ∃ s : String, line = Text.encode s ∧ withoutEnd s.toList = text.toList := by
  cases h with
  | crlf =>
    refine ⟨String.ofList (text.toList ++ ['\r', '\n']), ?_, ?_⟩
    · rw [Text.encode_ofList, Text.spell_append]
      rfl
    · rw [String.toList_ofList, withoutEnd_crlf]
  | lf h =>
    refine ⟨String.ofList (text.toList ++ ['\n']), ?_, ?_⟩
    · rw [Text.encode_ofList, Text.spell_append]
      rfl
    · rw [String.toList_ofList, withoutEnd_lf h]
  | bare h => exact ⟨text, rfl, withoutEnd_bare h⟩

/-- The bytes of what stands before and after a line feed. -/
lemma spell_feed (before after : List Char) :
    Text.spell (before ++ '\n' :: after) = Text.spell before ++ 0x0A :: Text.spell after := by
  rw [Text.spell_append]
  rfl

/-- A text with a line feed is the first line of an output just if that is its last character. -/
lemma eq_feed_of_firstLine {output rest : Bytes} {before after : List Char}
    (hbefore : '\n' ∉ before)
    (h : FirstLine output (Text.spell (before ++ '\n' :: after)) rest) : after = [] := by
  rw [spell_feed] at h
  have hnot : 0x0A ∉ Text.spell before := Text.notMem_spell_of_lt (c := '\n') (by decide) hbefore
  have hafter : Text.spell after = [] := by
    generalize hline : Text.spell before ++ 0x0A :: Text.spell after = line at h
    cases h with
    | @ended text _ htext =>
      have htake := (takeLine_ended hnot (Text.spell after)).symm
      rw [hline, takeLine_ended htext []] at htake
      exact (Prod.mk.inj htake).2
    | unended _ hnone =>
      rw [← hline] at hnone
      exact absurd (List.mem_append_right _ List.mem_cons_self) hnone
  cases after with
  | nil => rfl
  | cons c after =>
    obtain ⟨lead, more, hbytes, -⟩ := Text.decodeChar_utf8EncodeChar c []
    rw [Text.spell_cons, hbytes] at hafter
    cases hafter

/-- What the matcher is given of a line, computed from its text. -/
lemma lineText_withoutEnd {output line rest : Bytes} (h : FirstLine output line rest) {s : String}
    (hs : line = Text.encode s) : LineText line (String.ofList (withoutEnd s.toList)) := by
  have hline : line = Text.spell s.toList := hs
  by_cases hmem : '\n' ∈ s.toList
  · obtain ⟨before, after, hsplit, hbefore⟩ := List.eq_append_cons_of_mem hmem
    rw [hline, hsplit] at h
    cases eq_feed_of_firstLine hbefore h
    rw [hline, hsplit, spell_feed, Text.spell_nil]
    by_cases hlast : before.getLast? = some '\r'
    · obtain ⟨start, rfl⟩ := List.getLast?_eq_some_iff.1 hlast
      have hcrlf := LineText.crlf (String.ofList start)
      rw [Text.encode_ofList] at hcrlf
      rw [List.append_assoc, List.singleton_append, withoutEnd_crlf, Text.spell_append,
        List.append_assoc]
      exact hcrlf
    · have hlf := LineText.lf (s := String.ofList before) (by rwa [String.toList_ofList])
      rw [Text.encode_ofList] at hlf
      rwa [withoutEnd_lf hlast]
  · rw [hs, withoutEnd_bare hmem, String.ofList_toList]
    exact .bare hmem

/-! ## What a search comes to -/

/-- What a search comes to when no line decides it: the ending of the command does, and if that is a
code that is not zero, the first bytes of its errors go with it. -/
inductive Silent {α : Type} (command : String) (errors : Bytes) :
    Ending → Except CommandError (Option α) → Prop
  | success : Silent command errors (.exited 0) (.ok none)
  | failure {code : Nat} (hcode : code ≠ 0) {text : String}
    (htext : Text.Trimmed (Text.decodeLossy (errors.take 4096)).toList text.toList) :
    Silent command errors (.exited code) (.error (.exitCode command code text))
  | killed (signal : Nat) :
    Silent command errors (.killed signal) (.error (.killed command signal))

/-- What a search along some lines comes to, and what the matcher remembers before and after: the
first line that is no text, is rejected or is what was looked for decides it, and the matcher is not
called again. -/
inductive Searched {σ α : Type} (m : Matcher σ α) (command : String) (errors : Bytes)
    (ending : Ending) : σ → List Bytes → Except CommandError (Option α) → σ → Prop
  | ended {memory : σ} {result : Except CommandError (Option α)}
    (h : Silent command errors ending result) :
    Searched m command errors ending memory [] result memory
  | unreadable {memory : σ} {line : Bytes} {lines : List Bytes} {fault : Text.Fault}
    (h : ∀ s, line ≠ Text.encode s) (hfault : Text.decode line = .error fault) :
    Searched m command errors ending memory (line :: lines) (.error (.unreadable command fault))
      memory
  | rejected {memory memory' : σ} {line : Bytes} {lines : List Bytes} {text message : String}
    (htext : LineText line text) (h : m text memory = (.rejected message, memory')) :
    Searched m command errors ending memory (line :: lines) (.error (.rejected command message))
      memory'
  | found {memory memory' : σ} {line : Bytes} {lines : List Bytes} {text : String} {a : α}
    (htext : LineText line text) (h : m text memory = (.found a, memory')) :
    Searched m command errors ending memory (line :: lines) (.ok (some a)) memory'
  | pass {memory memory' memory'' : σ} {line : Bytes} {lines : List Bytes} {text : String}
    {result : Except CommandError (Option α)} (htext : LineText line text)
    (h : m text memory = (.pass, memory'))
    (hrest : Searched m command errors ending memory' lines result memory'') :
    Searched m command errors ending memory (line :: lines) result memory''

/-- What the ending comes to, computed. -/
lemma silent_iff {α : Type} {command : String} {errors : Bytes} {ending : Ending}
    {result : Except CommandError (Option α)} :
    Silent command errors ending result ↔
      resultOfEnding command (errors.take maxErrorBytes) ending = result := by
  constructor
  · intro h
    cases h with
    | success => rfl
    | @failure code hcode text htext =>
      obtain ⟨n, rfl⟩ := Nat.exists_eq_succ_of_ne_zero hcode
      have htrim : Text.trim (Text.decodeLossy (errors.take maxErrorBytes)) = text := by
        rw [Text.trim, maxErrorBytes, Text.trimmed_iff.1 htext, String.ofList_toList]
      rw [resultOfEnding, htrim]
      exact nofun
    | killed => rfl
  · rintro rfl
    cases ending with
    | exited code =>
      cases code with
      | zero => exact .success
      | succ n => exact .failure (Nat.succ_ne_zero n) (Text.trimmed_iff.2 String.toList_ofList.symm)
    | killed signal => exact .killed signal

section

variable {σ α : Type} {m : Matcher σ α} {command : String} {errors : Bytes} {ending : Ending}

/-- A search along the lines of an output comes to something. -/
lemma exists_searched {output : Bytes} {lines : List Bytes} (hlines : Lines output lines)
    (memory : σ) :
    ∃ result memory', Searched m command errors ending memory lines result memory' := by
  induction hlines generalizing memory with
  | nil => exact ⟨_, memory, .ended (silent_iff.2 rfl)⟩
  | @cons output line rest lines hfirst _ ih =>
    cases hdecode : Text.decode line with
    | error fault =>
      refine ⟨_, memory, .unreadable (fun s hs => ?_) hdecode⟩
      rw [hs, Text.decode_encode] at hdecode
      cases hdecode
    | ok s =>
      have htext := lineText_withoutEnd hfirst (Text.decode_eq_ok_iff.1 hdecode)
      cases hlook : m (String.ofList (withoutEnd s.toList)) memory with
      | mk verdict memory' =>
        cases verdict with
        | pass =>
          obtain ⟨result, memory'', hrest⟩ := ih memory'
          exact ⟨result, memory'', .pass htext hlook hrest⟩
        | found a => exact ⟨_, memory', .found htext hlook⟩
        | rejected message => exact ⟨_, memory', .rejected htext hlook⟩

/-! ## Transcripts -/

/-- What a program writes comes after what there was. -/
lemma Routine.transcribe_eq (routine : Routine Ending) (pieces : List (Sink × Bytes))
    (files : FileTree) :
    (routine.transcribe pieces files).1 =
      ⟨pieces.reverse ++ (routine.transcribe [] files).1.pieces,
        (routine.transcribe [] files).1.ending⟩ := by
  induction routine generalizing pieces files with
  | done ending => simp [transcribe]
  | receive most next ih => exact ih [] pieces files
  | send sink bytes next ih =>
    simp only [transcribe]
    rw [ih () ((sink, bytes) :: pieces), ih () [(sink, bytes)]]
    simp
  | close sink next ih => exact ih () pieces files
  | pause length next ih => exact ih () pieces files
  | look next ih => exact ih files pieces files
  | edit change next ih => exact ih () pieces (change files)
  | work next ih => exact ih () pieces files

/-! ## The search, byte by byte -/

namespace LineSearch

variable {s : LineSearch σ α}

/-- A search that is decided takes no more bytes. -/
lemma foldl_push_of_decided (h : s.decision.isSome) (output : Bytes) :
    output.foldl (push m) s = s := by
  induction output with
  | nil => rfl
  | cons b output ih => rw [List.foldl_cons, push, if_pos h, ih]

/-- At the end of the output nothing happens to a search that is decided. -/
lemma close_of_decided (h : s.decision.isSome) : s.close m = s := by
  rw [close, h, Bool.true_or, if_pos rfl]

/-- A search that is not decided collects what is before a line feed. -/
lemma foldl_push_of_notMem (h : s.decision = none) {text : Bytes} (htext : 0x0A ∉ text) :
    text.foldl (push m) s = { s with line := text.reverse ++ s.line } := by
  induction text generalizing s with
  | nil => rfl
  | cons b text ih =>
    obtain ⟨hb, htext⟩ := not_or.1 (mt List.mem_cons.2 htext)
    have hpush : push m s b = { s with line := b :: s.line } := by
      rw [push, h, if_neg (by simp), if_neg (Ne.symm hb)]
    rw [List.foldl_cons, hpush, ih (s := { s with line := b :: s.line }) h htext,
      List.reverse_cons, List.append_assoc]
    rfl

/-- After a line the search begins a new one. -/
lemma look_line (m : Matcher σ α) (line : Bytes) (s : LineSearch σ α) :
    (s.look m line).line = [] := by
  unfold look
  split <;> rfl

/-- The matcher looks at the first line of an output before anything else happens. -/
lemma foldl_push_firstLine {output line rest : Bytes} (hfirst : FirstLine output line rest)
    (hline : s.line = []) (hdecision : s.decision = none) :
    (output.foldl (push m) s).close m = (rest.foldl (push m) (s.look m line)).close m := by
  cases hfirst with
  | @ended text rest htext =>
    have hfeed : push m { s with line := text.reverse ++ s.line } 0x0A =
        s.look m (text ++ [0x0A]) := by
      rw [push, hdecision, if_neg (by simp), if_pos rfl, hline, List.append_nil, List.reverse_cons,
        List.reverse_reverse]
      rfl
    rw [List.foldl_append, foldl_push_of_notMem hdecision htext, List.foldl_cons, hfeed]
  | unended hsome htext =>
    have hclose : close m { s with line := output.reverse ++ s.line } = s.look m output := by
      rw [close, hdecision, hline, List.append_nil, if_neg (by simpa using hsome),
        List.reverse_reverse]
      rfl
    have hover : close m (s.look m output) = s.look m output := by
      rw [close, look_line, List.isEmpty_nil, Bool.or_true, if_pos rfl]
    rw [foldl_push_of_notMem hdecision htext, hclose, List.foldl_nil, hover]

/-- The matcher looks at the text of a line. -/
lemma look_of_lineText {line : Bytes} {text : String} (htext : LineText line text) {v : Verdict α}
    {memory : σ} (hlook : m text s.memory = (v, memory)) :
    s.look m line = { s with
      line := []
      memory
      decision := match v with
        | .pass => none
        | .found a => some (.found a)
        | .rejected message => some (.rejected message) } := by
  obtain ⟨whole, rfl, hwhole⟩ := htext.exists_text
  rw [look, Text.decode_encode]
  simp only [hwhole, String.ofList_toList, hlook]
  cases v <;> rfl

/-- A search that the next line decides comes to that, whatever follows. -/
lemma foldl_push_of_look_decided {output line rest : Bytes} (hfirst : FirstLine output line rest)
    (hline : s.line = []) (hdecision : s.decision = none)
    (hlook : (s.look m line).decision.isSome) :
    (output.foldl (push m) s).close m = s.look m line := by
  rw [foldl_push_firstLine hfirst hline hdecision, foldl_push_of_decided hlook,
    close_of_decided hlook]

/-- **A search byte by byte comes to what the lines say.** -/
theorem result_of_searched {output : Bytes} {lines : List Bytes} (hlines : Lines output lines)
    {memory memory' : σ} {result : Except CommandError (Option α)}
    (h : Searched m command errors ending memory lines result memory')
    (hline : s.line = []) (hdecision : s.decision = none)
    (herrors : s.errors = errors.take maxErrorBytes) (hmemory : s.memory = memory) :
    ((output.foldl (push m) s).close m).result command ending = result ∧
      ((output.foldl (push m) s).close m).memory = memory' := by
  induction h generalizing output s with
  | ended h =>
    cases hlines
    have hclose : s.close m = s := by
      rw [close, hline, List.isEmpty_nil, Bool.or_true, if_pos rfl]
    rw [List.foldl_nil, hclose, LineSearch.result, hdecision, herrors]
    exact ⟨silent_iff.1 h, hmemory⟩
  | @unreadable memory line _ fault _ hfault =>
    obtain - | ⟨hfirst, -⟩ := hlines
    have hlook : s.look m line = { s with line := [], decision := some (.unreadable fault) } := by
      rw [look, hfault]
    rw [foldl_push_of_look_decided hfirst hline hdecision (by rw [hlook]; rfl), hlook]
    exact ⟨rfl, hmemory⟩
  | rejected htext hverdict =>
    obtain - | ⟨hfirst, -⟩ := hlines
    have hlook := look_of_lineText (s := s) htext (hmemory ▸ hverdict)
    rw [foldl_push_of_look_decided hfirst hline hdecision (by rw [hlook]; rfl), hlook]
    exact ⟨rfl, rfl⟩
  | found htext hverdict =>
    obtain - | ⟨hfirst, -⟩ := hlines
    have hlook := look_of_lineText (s := s) htext (hmemory ▸ hverdict)
    rw [foldl_push_of_look_decided hfirst hline hdecision (by rw [hlook]; rfl), hlook]
    exact ⟨rfl, rfl⟩
  | pass htext hverdict _ ih =>
    obtain - | ⟨hfirst, hrest⟩ := hlines
    have hlook := look_of_lineText (s := s) htext (hmemory ▸ hverdict)
    rw [foldl_push_firstLine hfirst hline hdecision, hlook]
    exact ih hrest rfl rfl herrors rfl

/-! ## The pieces of the output -/

/-- The first bytes of two pieces of the errors. -/
lemma take_append_take (kept more : Bytes) :
    kept.take maxErrorBytes ++ more.take (maxErrorBytes - (kept.take maxErrorBytes).length) =
      (kept ++ more).take maxErrorBytes := by
  have hroom : maxErrorBytes - (kept.take maxErrorBytes).length = maxErrorBytes - kept.length := by
    rw [List.length_take]
    omega
  rw [hroom, List.take_append]

/-- What has been kept of the errors makes no difference to what is read of the output. -/
lemma foldl_push_errors (kept output : Bytes) (s : LineSearch σ α) :
    output.foldl (push m) { s with errors := kept } =
      { output.foldl (push m) s with errors := kept } := by
  have hpush : ∀ (s : LineSearch σ α) (b : UInt8),
      push m { s with errors := kept } b = { push m s b with errors := kept } := by
    intro s b
    unfold push look
    dsimp only
    split
    · rfl
    · split
      · cases Text.decode (b :: s.line).reverse <;> rfl
      · rfl
  induction output generalizing s with
  | nil => rfl
  | cons b output ih => rw [List.foldl_cons, List.foldl_cons, hpush, ih]

/-- **The pieces in which bytes come make no difference**: what counts is all that was written to
the output, and the first bytes of all that was written to the errors. -/
theorem foldl_take (pieces : List (Sink × Bytes)) {kept : Bytes}
    (hkept : s.errors = kept.take maxErrorBytes) :
    pieces.foldl (take m) s =
      { (writtenTo .output pieces).foldl (push m) s with
        errors := (kept ++ writtenTo .errors pieces).take maxErrorBytes } := by
  induction pieces generalizing s kept with
  | nil =>
    simp only [writtenTo_nil, List.append_nil, List.foldl_nil, ← hkept]
  | cons piece pieces ih =>
    obtain ⟨sink, bytes⟩ := piece
    cases sink with
    | output =>
      have herrors : (bytes.foldl (push m) s).errors = kept.take maxErrorBytes := by
        have hsame := foldl_push_errors (m := m) s.errors bytes s
        rw [← hkept, hsame]
      rw [List.foldl_cons, take, ih herrors, ← List.foldl_append]
      rfl
    | errors =>
      have htake : take m s (.errors, bytes) =
          { s with errors := (kept ++ bytes).take maxErrorBytes } := by
        rw [take, hkept, take_append_take]
      rw [List.foldl_cons, htake, ih rfl, foldl_push_errors, List.append_assoc]
      rfl

/-! ## Searches that stop the command -/

/-- A search that is decided stays as it is, apart from the errors that it keeps. -/
lemma take_of_decided (h : s.decision.isSome) (piece : Sink × Bytes) :
    ∃ kept, take m s piece = { s with errors := kept } := by
  obtain ⟨sink, bytes⟩ := piece
  cases sink with
  | output => exact ⟨s.errors, by rw [take, foldl_push_of_decided h]⟩
  | errors => exact ⟨_, rfl⟩

/-- It stays so to the end. -/
lemma finish_of_decided (h : s.decision.isSome) (pieces : List (Sink × Bytes)) :
    ∃ kept, (pieces.foldl (take m) s).close m = { s with errors := kept } := by
  induction pieces generalizing s with
  | nil => exact ⟨s.errors, close_of_decided h⟩
  | cons piece pieces ih =>
    obtain ⟨kept, htake⟩ := take_of_decided (m := m) h piece
    rw [List.foldl_cons, htake]
    exact ih (s := { s with errors := kept }) h

/-- When a search is decided, neither the errors nor the ending matter. -/
lemma result_of_decided (h : s.decision.isSome) (kept : Bytes) (ending ending' : Ending) :
    LineSearch.result command ending { s with errors := kept } = s.result command ending' := by
  obtain ⟨d, hd⟩ := Option.isSome_iff_exists.1 h
  rw [result, result, hd]
  cases d <;> rfl

/-- **Stopping a command that has said enough makes no difference** to what the search comes to, or
to what the matcher remembers. -/
theorem watch_eq (routine : Routine Ending) (hdecision : s.decision = none) (files : FileTree) :
    let t := (routine.transcribe [] files).1
    let whole := (t.pieces.foldl (take m) s).close m
    let (watched, ended, _) := s.watch m files routine
    (watched.result command (ended.getD abandonment), watched.memory) =
      (whole.result command t.ending, whole.memory) := by
  induction routine generalizing s files with
  | done ending => rfl
  | receive most next ih => exact ih [] hdecision files
  | send sink bytes next ih =>
    have hpieces := Routine.transcribe_eq (next ()) [(sink, bytes)] files
    simp only [Routine.transcribe, hpieces, List.reverse_singleton, List.singleton_append,
      List.foldl_cons, watch]
    cases hnext : (s.take m (sink, bytes)).decision with
    | none => exact ih () hnext files
    | some d =>
      have hdecided : (s.take m (sink, bytes)).decision.isSome := by rw [hnext]; rfl
      obtain ⟨kept, hfinish⟩ := finish_of_decided (m := m) hdecided
        ((next ()).transcribe [] files).1.pieces
      rw [hfinish, result_of_decided hdecided]
      rfl
  | close sink next ih => exact ih () hdecision files
  | pause length next ih => exact ih () hdecision files
  | look next ih => exact ih files hdecision files
  | edit change next ih => exact ih () hdecision (change files)
  | work next ih => exact ih () hdecision files

end LineSearch

/-! ## Searches over transcripts and over running commands -/

/-- **A search over a transcript comes to what its lines say.** -/
theorem searched_findLine (m : Matcher σ α) (memory : σ) (command : String) (t : Transcript)
    {lines : List Bytes} (hlines : Lines (writtenTo .output t.pieces) lines)
    {result : Except CommandError (Option α)} {memory' : σ} :
    findLine m memory command t = (result, memory') ↔
      Searched m command (writtenTo .errors t.pieces) t.ending memory lines result memory' := by
  have hkept : (LineSearch.start memory : LineSearch σ α).errors = List.take maxErrorBytes [] := rfl
  have hpieces := LineSearch.foldl_take (m := m) t.pieces hkept
  have hcomes : ∀ {result memory'},
      Searched m command (writtenTo .errors t.pieces) t.ending memory lines result memory' →
        findLine m memory command t = (result, memory') := by
    intro result memory' h
    let kept := (writtenTo .errors t.pieces).take maxErrorBytes
    obtain ⟨hresult, hmemory⟩ := LineSearch.result_of_searched hlines h
      (s := { LineSearch.start memory with errors := kept }) rfl rfl rfl rfl
    rw [LineSearch.foldl_push_errors] at hresult hmemory
    rw [findLine, hpieces, List.nil_append]
    exact Prod.ext hresult hmemory
  refine ⟨fun h => ?_, hcomes⟩
  obtain ⟨result', memory'', h'⟩ := exists_searched hlines memory
  cases h.symm.trans (hcomes h')
  exact h'

end

/-- **A search while a command runs comes to the same as one over all that it would do.** -/
theorem searchOutput_eq_findLine {σ α : Type} (m : Matcher σ α) (memory : σ) {l : Launch}
    {environment : Environment} {files : FileTree} {routine : Routine Ending}
    (hstart : l.start environment files = .ok routine) :
    ((searchOutput m memory l environment files).1,
        (searchOutput m memory l environment files).2.1) =
      findLine m memory l.program (routine.transcribe [] files).1 := by
  rw [searchOutput, hstart]
  exact LineSearch.watch_eq routine rfl files

/-- **The first decisive line wins.** Whatever a command writes, in whatever pieces, and however it
ends, a search comes to what the lines of its output say, and the matcher remembers what it has been
given up to the line that decides; a search that stops the command then comes to the same. -/
theorem first_decisive_line_wins {σ α : Type} (m : Matcher σ α) (memory : σ) :
    (∀ (command : String) (t : Transcript), ∃ lines, Lines (writtenTo .output t.pieces) lines ∧
      ∀ result memory', findLine m memory command t = (result, memory') ↔
        Searched m command (writtenTo .errors t.pieces) t.ending memory lines result memory') ∧
    ∀ (l : Launch) (environment : Environment) (files : FileTree) (routine : Routine Ending),
      l.start environment files = .ok routine →
        ((searchOutput m memory l environment files).1,
            (searchOutput m memory l environment files).2.1) =
          findLine m memory l.program (routine.transcribe [] files).1 := by
  refine ⟨fun command t => ?_, fun l environment files routine hstart =>
    searchOutput_eq_findLine m memory hstart⟩
  obtain ⟨lines, hlines⟩ := exists_lines (writtenTo .output t.pieces)
  exact ⟨lines, hlines, fun result memory' => searched_findLine m memory command t hlines⟩

/-! ## A search that the second line decides -/

/-- Looks for the line `b`, and remembers all that it is given. -/
def eavesdrop : Matcher (List String) String := fun line heard =>
  (if line = "b" then .found line else .pass, heard ++ [line])

/-- A command that writes its two lines in pieces, the second without a line feed, and fails. -/
def faltering : Transcript where
  pieces := [(.output, [0x61, 0x0D]), (.errors, [0x20, 0xC3]), (.output, [0x0A, 0x62, 0x0D]),
    (.errors, [0xA9, 0x0A])]
  ending := .exited 3

/-- A command that writes three lines. -/
def echoing : Launch := ⟨"/bin/echo", ["a\r\nb\nc"], [], none⟩

/-- A tree with nothing in it. -/
def barren : FileTree := ⟨.folder 0 [], []⟩

/-- There is nothing at a path in an empty tree. -/
lemma inspect_barren : barren.inspect ⟨"/bin/echo"⟩ = .error .missing := by
  have hroot : Node.at? (.folder 0 []) [] = some (.folder 0 []) := rfl
  have hpieces : Path.pieces (Path.chars ⟨"/bin/echo"⟩) = [[], "bin".toList, "echo".toList] := by
    decide +kernel
  have hwalk : walk (.folder 0 []) true maxLinks [] [[], "bin".toList, "echo".toList] =
      .error .missing := by
    rw [walk, hroot]
    change walk (.folder 0 []) true maxLinks [] ["bin".toList, "echo".toList] = _
    rw [walk, hroot]
    rfl
  have hplace : barren.place true ⟨"/bin/echo"⟩ = .error .missing := by
    rw [FileTree.place, if_neg (by decide), if_neg (by decide), if_neg (by decide), hpieces]
    exact hwalk
  rw [FileTree.inspect, FileTree.locate, hplace]

/-- Every system has the program that writes its arguments. -/
lemma start_echoing : echoing.start [] barren =
    .ok (Shell.Tool.echo ⟨"/bin/echo".toList, ["a\r\nb\nc".toList], [], []⟩) := by
  have hfind : findProgram barren (searchFolders [])
      (Shell.textOf (Shell.lettersOfText echoing.program)) = .ok ("/bin/echo", .system "echo") := by
    have hname : Shell.textOf (Shell.lettersOfText echoing.program) = "/bin/echo" := by
      decide +kernel
    have hsystem : systemProgram? "/bin/echo" = some "echo" := by decide +kernel
    rw [hname, findProgram, if_pos (by decide), executableAt, inspect_barren]
    dsimp only
    rw [hsystem]
    rfl
  have hstart : startNested maxDepth maxNesting (Shell.lettersOfText echoing.program)
      (echoing.arguments.map Shell.lettersOfText) [] [] barren =
        .ok (Shell.Tool.echo ⟨"/bin/echo".toList, ["a\r\nb\nc".toList], [], []⟩) := by
    rw [maxNesting, startNested, hfind]
    rfl
  have hfolder : echoing.startFolder barren = .ok [] := rfl
  have hseen : barren.seenAt [] = barren := rfl
  have hset : echoing.settings.foldl (fun e v => Environment.set e v.1 v.2) [] = [] := rfl
  rw [Launch.start, if_neg (by decide), hfolder]
  dsimp only
  rw [hseen, hset, List.map_nil, hstart]

/-- The search for `b` is given the lines of the command that fails and ends with its code; of the
three lines of the other command it is given two, and finds the second. -/
theorem first_decisive_line_wins_eavesdrop :
    (∃ lines, Lines (writtenTo .output faltering.pieces) lines ∧
      Searched eavesdrop "ls" (writtenTo .errors faltering.pieces) (.exited 3) [] lines
        (.error (.exitCode "ls" 3 "é")) ["a", "b\r"]) ∧
    ((searchOutput eavesdrop [] echoing [] barren).1,
      (searchOutput eavesdrop [] echoing [] barren).2.1) = (.ok (some "b"), ["a", "b"]) := by
  obtain ⟨htranscript, hlaunch⟩ := first_decisive_line_wins eavesdrop []
  refine ⟨?_, (hlaunch echoing [] barren _ start_echoing).trans (by decide +kernel)⟩
  obtain ⟨lines, hlines, hsearched⟩ := htranscript "ls" faltering
  exact ⟨lines, hlines, (hsearched _ _).1 (by decide +kernel)⟩

end LintPool
