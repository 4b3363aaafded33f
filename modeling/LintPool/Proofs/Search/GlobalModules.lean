import LintPool.Proofs.Search.Lines
import LintPool.Search.GlobalModules

set_option autoImplicit false

/-!
# Asking for global modules until they are found

A manager is asked for its directory of globally installed modules by a command, again and again
until the command has named one; from then on that directory is the answer, and the command is not
run any more. What the output of the command names is said here line by line, without the search
that looks for it and without the way in which the command ends.

## Main definitions

* `LintPool.Manager.PassesOver`, `LintPool.Manager.Names` — what a manager makes of a line.
* `LintPool.Manager.Reports` — the directory of modules that the lines of an output come to.
* `LintPool.Manager.Gives` — the directory of modules that running the command comes to.
* `LintPool.Inquiry`, `LintPool.GlobalModules.inquiries` — what is told of calls, one after the
  other.
* `LintPool.Inquiry.Follows` — what a call should be after those before it.

## Main results

* `LintPool.Manager.modulesIn_eq_some_iff` — what is found in an output is what its lines report.
* `LintPool.GlobalModules.resolve_noting` — taking notes of the commands changes nothing else.
* `LintPool.GlobalModules.Tells.follows_inquiry` — one call, from what is known before it.
* `LintPool.GlobalModules.asked_until_found` — calls, one after the other.
-/

namespace LintPool

open Text (Trimmed)

/-! ## What the lines of an output say -/

/-- A value is a record of the kind `log`. -/
def IsLog (record : Json) : Prop :=
  ∃ fields, record = .obj fields ∧ Json.lookup "type" fields = some (.str "log")

/-- A manager makes nothing of a line: it is blank, or the manager writes records and it is one of
another kind than `log`. -/
inductive Manager.PassesOver : Manager → String → Prop
  | blank (m : Manager) {line : String} (h : Trimmed line.toList []) : PassesOver m line
  | record {line core : String} {record : Json} (hcore : Trimmed line.toList core.toList)
    (hread : Json.ofText core = .ok record) (hkind : ¬ IsLog record) : PassesOver .yarn line

/-- A line gives the directory of modules of a manager. The line is a directory, and the modules are
there or below it; or it is a record of the kind `log`, with a directory for its data. -/
inductive Manager.Names : Manager → String → Path → Prop
  | npm {line directory : String} (h : Trimmed line.toList directory.toList)
    (hsome : directory ≠ "") :
    Names .npm line (((Path.mk directory).join ⟨"lib"⟩).join ⟨"node_modules"⟩)
  | pnpm {line directory : String} (h : Trimmed line.toList directory.toList)
    (hsome : directory ≠ "") : Names .pnpm line ⟨directory⟩
  | yarn {line core data directory : String} {fields : List (String × Json)}
    (hcore : Trimmed line.toList core.toList) (hread : Json.ofText core = .ok (.obj fields))
    (hkind : Json.lookup "type" fields = some (.str "log"))
    (hdata : Json.lookup "data" fields = some (.str data))
    (h : Trimmed data.toList directory.toList) (hsome : directory ≠ "") :
    Names .yarn line ((Path.mk directory).join ⟨"node_modules"⟩)

/-- The lines of an output come to a directory of modules: the first line that is not passed over
is text and gives it. -/
inductive Manager.Reports (m : Manager) : List Bytes → Path → Prop
  | names {line : Bytes} {lines : List Bytes} {text : String} {modules : Path}
    (htext : LineText line text) (h : m.Names text modules) : Reports m (line :: lines) modules
  | later {line : Bytes} {lines : List Bytes} {text : String} {modules : Path}
    (htext : LineText line text) (h : m.PassesOver text) (hrest : Reports m lines modules) :
    Reports m (line :: lines) modules

/-- Running the command of a manager comes to a directory of modules: it could be started, and its
output reports the directory. -/
def Manager.Gives (m : Manager) (ran : Option Transcript) (modules : Path) : Prop :=
  ∃ t lines, ran = some t ∧ Lines (writtenTo .output t.pieces) lines ∧ m.Reports lines modules

/-! ## One line -/

/-- A text without the blanks at its ends, computed. -/
lemma trimmed_toList_iff {whole core : String} :
    Trimmed whole.toList core.toList ↔ Text.trim whole = core := by
  rw [Text.trimmed_iff, Text.trim]
  constructor
  · intro h
    rw [h, String.ofList_toList]
  · rintro rfl
    rw [String.toList_ofList]

/-- The text of a field of a record. -/
lemma recordText?_eq_some_iff {record : Json} {key text : String} :
    recordText? record key = some text ↔
      ∃ fields, record = .obj fields ∧ Json.lookup key fields = some (.str text) := by
  cases record with
  | obj fields =>
    cases hfield : Json.lookup key fields with
    | none => simp [recordText?, Json.field?, hfield]
    | some value => cases value <;> simp [recordText?, Json.field?, Json.text?, hfield]
  | _ => simp [recordText?, Json.field?]

/-- A record is of the kind `log` just if the text of its type is that. -/
lemma isLog_iff {record : Json} : IsLog record ↔ recordText? record "type" = some "log" :=
  recordText?_eq_some_iff.symm

/-- The directory in a record. -/
lemma directoryInRecord_eq_found_iff {core directory : String} :
    directoryInRecord core = .found ⟨directory⟩ ↔
      ∃ fields data, Json.ofText core = .ok (.obj fields) ∧
        Json.lookup "type" fields = some (.str "log") ∧
        Json.lookup "data" fields = some (.str data) ∧
        Text.trim data = directory ∧ directory ≠ "" := by
  constructor
  · intro h
    rw [directoryInRecord] at h
    split at h
    · cases h
    · rename_i record hread
      split_ifs at h with hkind
      obtain ⟨fields, rfl, hlog⟩ := recordText?_eq_some_iff.1 hkind
      split at h
      · rename_i found hdata
        split_ifs at h with hempty
        cases h
        obtain ⟨data, hdata, htrim⟩ := Option.map_eq_some_iff.1 hdata
        obtain ⟨_, hfields, hdata⟩ := recordText?_eq_some_iff.1 hdata
        cases hfields
        exact ⟨fields, data, hread, hlog, hdata, htrim, fun h => hempty (h ▸ rfl)⟩
      · cases h
  · rintro ⟨fields, data, hread, hkind, hdata, rfl, hsome⟩
    have hkind : recordText? (.obj fields) "type" = some "log" :=
      recordText?_eq_some_iff.2 ⟨fields, rfl, hkind⟩
    have hdata : recordText? (.obj fields) "data" = some data :=
      recordText?_eq_some_iff.2 ⟨fields, rfl, hdata⟩
    rw [directoryInRecord, hread]
    dsimp only
    rw [if_pos hkind, hdata, Option.map_some]
    dsimp only
    rw [if_neg (by simpa [String.isEmpty_iff] using hsome)]

/-- What is passed over among records. -/
lemma directoryInRecord_eq_pass_iff {core : String} :
    directoryInRecord core = .pass ↔
      ∃ record, Json.ofText core = .ok record ∧ ¬ IsLog record := by
  rw [directoryInRecord]
  cases Json.ofText core with
  | error complaint => simp
  | ok record =>
    by_cases hkind : recordText? record "type" = some "log"
    · have hlog : IsLog record := isLog_iff.2 hkind
      dsimp only
      rw [if_pos hkind]
      cases (recordText? record "data").map Text.trim with
      | none => simp [hlog]
      | some directory => cases hempty : directory.isEmpty <;> simp [hlog, hempty]
    · simpa [hkind] using hkind ∘ isLog_iff.1

namespace Manager

variable {m : Manager}

/-- A blank line is passed over. -/
lemma directoryIn_of_blank {line : String} (h : Text.trim line = "") :
    m.directoryIn line = .pass := by
  unfold directoryIn
  rw [h]
  rfl

/-- Any other line is a directory, or a record of a manager that writes records. -/
lemma directoryIn_of_ne {line : String} (h : Text.trim line ≠ "") :
    m.directoryIn line = match m with
      | .yarn => directoryInRecord (Text.trim line)
      | .npm | .pnpm => .found ⟨Text.trim line⟩ := by
  have hfilled : ¬ (Text.trim line).isEmpty = true := by rwa [String.isEmpty_iff]
  unfold directoryIn
  cases m <;> exact if_neg hfilled

/-- The empty text is no record. -/
lemma ofText_empty_ne (record : Json) : Json.ofText "" ≠ .ok record := by
  have hrefused : (Json.ofText "").toOption = none := by decide +kernel
  intro hread
  rw [hread] at hrefused
  cases hrefused

/-- What a line is passed over for. -/
lemma directoryIn_eq_pass_iff {line : String} :
    m.directoryIn line = .pass ↔ m.PassesOver line := by
  by_cases hblank : Text.trim line = ""
  · exact iff_of_true (directoryIn_of_blank hblank) (.blank m (trimmed_toList_iff.2 hblank))
  rw [directoryIn_of_ne hblank]
  constructor
  · intro h
    cases m with
    | npm => cases h
    | pnpm => cases h
    | yarn =>
      obtain ⟨record, hread, hkind⟩ := directoryInRecord_eq_pass_iff.1 h
      exact .record (trimmed_toList_iff.2 rfl) hread hkind
  · intro h
    cases h with
    | blank _ h => exact absurd (trimmed_toList_iff.1 h) hblank
    | record hcore hread hkind =>
      cases trimmed_toList_iff.1 hcore
      exact directoryInRecord_eq_pass_iff.2 ⟨_, hread, hkind⟩

/-- What directory of modules a line gives. -/
lemma exists_directoryIn_iff {line : String} {modules : Path} :
    (∃ directory, m.directoryIn line = .found directory ∧ m.modulesBelow directory = modules) ↔
      m.Names line modules := by
  constructor
  · rintro ⟨⟨directory⟩, hfound, rfl⟩
    by_cases hblank : Text.trim line = ""
    · rw [directoryIn_of_blank hblank] at hfound
      cases hfound
    rw [directoryIn_of_ne hblank] at hfound
    cases m with
    | npm =>
      cases hfound
      exact .npm (trimmed_toList_iff.2 rfl) hblank
    | pnpm =>
      cases hfound
      exact .pnpm (trimmed_toList_iff.2 rfl) hblank
    | yarn =>
      obtain ⟨fields, data, hread, hkind, hdata, htrim, hsome⟩ :=
        directoryInRecord_eq_found_iff.1 hfound
      exact .yarn (trimmed_toList_iff.2 rfl) hread hkind hdata (trimmed_toList_iff.2 htrim) hsome
  · intro h
    cases h with
    | npm h hsome | pnpm h hsome =>
      cases trimmed_toList_iff.1 h
      exact ⟨_, directoryIn_of_ne hsome, rfl⟩
    | yarn hcore hread hkind hdata h hsome =>
      cases trimmed_toList_iff.1 hcore
      have hblank : Text.trim line ≠ "" := fun hblank => ofText_empty_ne _ (hblank ▸ hread)
      refine ⟨⟨_⟩, (directoryIn_of_ne hblank).trans ?_, rfl⟩
      exact directoryInRecord_eq_found_iff.2
        ⟨_, _, hread, hkind, hdata, trimmed_toList_iff.1 h, hsome⟩

/-! ## The lines of an output -/

/-- The matcher remembers nothing. -/
lemma matcher_eq_iff {line : String} {verdict : Verdict Path} {memory memory' : Unit} :
    m.matcher line memory = (verdict, memory') ↔ m.directoryIn line = verdict := by
  rw [matcher, Prod.mk.injEq]
  exact and_iff_left rfl

/-- What a search along lines finds is what they report. -/
lemma reports_of_searched {command : String} {errors : Bytes} {ending : Ending}
    {lines : List Bytes} {directory : Path} {memory memory' : Unit}
    (h : Searched m.matcher command errors ending memory lines (.ok (some directory)) memory') :
    m.Reports lines (m.modulesBelow directory) := by
  generalize hresult : Except.ok (some directory) = result at h
  induction h with
  | ended h => cases h <;> cases hresult
  | unreadable => cases hresult
  | rejected => cases hresult
  | found htext h =>
    cases hresult
    exact .names htext (exists_directoryIn_iff.1 ⟨directory, matcher_eq_iff.1 h, rfl⟩)
  | pass htext h _ ih =>
    exact .later htext (directoryIn_eq_pass_iff.1 (matcher_eq_iff.1 h)) (ih hresult)

/-- A search along lines finds what they report. -/
lemma searched_of_reports {lines : List Bytes} {modules : Path} (h : m.Reports lines modules)
    (command : String) (errors : Bytes) (ending : Ending) :
    ∃ directory, m.modulesBelow directory = modules ∧
      Searched m.matcher command errors ending () lines (.ok (some directory)) () := by
  induction h with
  | names htext h =>
    obtain ⟨directory, hfound, hmodules⟩ := exists_directoryIn_iff.2 h
    exact ⟨directory, hmodules, .found htext (matcher_eq_iff.2 hfound)⟩
  | later htext h _ ih =>
    obtain ⟨directory, hmodules, hrest⟩ := ih
    exact ⟨directory, hmodules, .pass htext (matcher_eq_iff.2 (directoryIn_eq_pass_iff.2 h)) hrest⟩

/-- **What is found in an output is what its lines report**, however the command ends. -/
theorem modulesIn_eq_some_iff {t : Transcript} {lines : List Bytes}
    (hlines : Lines (writtenTo .output t.pieces) lines) {modules : Path} :
    m.modulesIn t = some modules ↔ m.Reports lines modules := by
  have hsearch : ∀ directory,
      findLine m.matcher () m.command.program t = (.ok (some directory), ()) ↔
        Searched m.matcher m.command.program (writtenTo .errors t.pieces) t.ending () lines
          (.ok (some directory)) () := fun directory =>
    searched_findLine m.matcher () m.command.program t hlines
  constructor
  · intro h
    rw [modulesIn] at h
    split at h
    · rename_i found hfound
      obtain ⟨directory, rfl, rfl⟩ := Option.map_eq_some_iff.1 h
      exact reports_of_searched ((hsearch directory).1 (Prod.ext hfound rfl))
    · cases h
  · intro h
    obtain ⟨directory, rfl, hsearched⟩ := searched_of_reports h m.command.program
      (writtenTo .errors t.pieces) t.ending
    rw [modulesIn, (hsearch directory).2 hsearched]
    rfl

/-- What running a command comes to, computed. -/
lemma gives_iff {ran : Option Transcript} {modules : Path} :
    m.Gives ran modules ↔ ran.bind m.modulesIn = some modules := by
  constructor
  · rintro ⟨t, lines, rfl, hlines, h⟩
    exact (modulesIn_eq_some_iff hlines).2 h
  · intro h
    obtain ⟨t, rfl, h⟩ := Option.bind_eq_some_iff.1 h
    obtain ⟨lines, hlines⟩ := exists_lines (writtenTo .output t.pieces)
    exact ⟨t, lines, rfl, hlines, (modulesIn_eq_some_iff hlines).1 h⟩

end Manager

/-! ## One call -/

/-- What is told of a call. -/
structure Inquiry where
  /-- The manager that is asked for. -/
  manager : Manager
  /-- The answer. -/
  answer : Option Path
  /-- The commands that were run for it, each with what it did unless it could not be started. -/
  runs : List (Manager × Option Transcript)
  /-- What is known after the call. -/
  known : GlobalModules
  deriving DecidableEq

/-- What is known are the answers that are told. -/
def GlobalModules.Tells (g : GlobalModules) (told : List Inquiry) : Prop :=
  ∀ m modules, g.get? m = some modules ↔
    ∃ y ∈ told, y.manager = m ∧ y.answer = some modules

/-- A call is what it should be after the calls that are told. -/
structure Inquiry.Follows (told : List Inquiry) (x : Inquiry) : Prop where
  /-- No command is run just if an earlier call for the manager had an answer. -/
  runs_eq_nil_iff : x.runs = [] ↔ ∃ y ∈ told, y.manager = x.manager ∧ y.answer.isSome
  /-- Then the answer is the same. -/
  answer_eq : ∀ y ∈ told, y.manager = x.manager → y.answer.isSome → x.answer = y.answer
  /-- Otherwise the command of the manager is run, once, and the answer is what it gives. -/
  runs_once : x.runs ≠ [] → ∃ ran, x.runs = [(x.manager, ran)] ∧
    ∀ modules, x.answer = some modules ↔ x.manager.Gives ran modules
  /-- What is known then are the answers so far, and nothing of the calls that had none. -/
  known_tells : x.known.Tells (told ++ [x])

namespace GlobalModules

section

variable {σ : Type} (run : Manager → σ → Option Transcript × σ)

/-- Runs a command and takes a note of it. -/
def noting (m : Manager) (s : σ × List (Manager × Option Transcript)) :
    Option Transcript × σ × List (Manager × Option Transcript) :=
  ((run m s.1).1, (run m s.1).2, s.2 ++ [(m, (run m s.1).1)])

/-- What is told of a call for a manager. -/
def inquiry (m : Manager) (g : GlobalModules) (s : σ) : Inquiry where
  manager := m
  answer := (resolve run m g s).1
  runs := (resolve (noting run) m g (s, [])).2.2.2
  known := (resolve run m g s).2.1

/-- What is told of calls, one after the other. -/
def inquiries : List Manager → GlobalModules → σ → List Inquiry
  | [], _, _ => []
  | m :: ms, g, s =>
    inquiry run m g s :: inquiries ms (resolve run m g s).2.1 (resolve run m g s).2.2

variable {run} {m : Manager} {g : GlobalModules} {s : σ}

/-- What is known after a manager has been asked: its answer is kept, if it had one. -/
def keep (g : GlobalModules) (m : Manager) : Option Path → GlobalModules
  | none => g
  | some modules => ⟨g.known ++ [(m, modules)]⟩

/-- One more answer is known of the manager that had none. -/
lemma get?_keep (h : g.get? m = none) {answer : Option Path} {m' : Manager} {modules : Path} :
    (g.keep m answer).get? m' = some modules ↔
      g.get? m' = some modules ∨ m = m' ∧ answer = some modules := by
  cases answer with
  | none => simp [keep]
  | some found =>
    have hget : (g.keep m (some found)).get? m' =
        (g.get? m').or (if m = m' then some found else none) := by
      rw [keep, get?, List.find?_append, get?, Option.map_or]
      congr 1
      by_cases hm : m = m' <;> simp [hm]
    rw [hget]
    by_cases hm : m = m'
    · cases hm
      simp [h]
    · simp [hm]

/-- A manager whose directory is known is not asked. -/
lemma resolve_of_known {modules : Path} (h : g.get? m = some modules) :
    resolve run m g s = (some modules, g, s) := by
  rw [resolve, h]

/-- A manager whose directory is not known is asked. -/
lemma resolve_of_unknown (h : g.get? m = none) :
    resolve run m g s = ((run m s).1.bind m.modulesIn,
      g.keep m ((run m s).1.bind m.modulesIn), (run m s).2) := by
  rw [resolve, h]
  dsimp only
  cases (run m s).1.bind m.modulesIn <;> rfl

/-- **Taking notes changes nothing else.** -/
theorem resolve_noting (notes : List (Manager × Option Transcript)) :
    resolve (noting run) m g (s, notes) =
      ((resolve run m g s).1, (resolve run m g s).2.1, (resolve run m g s).2.2,
        if (g.get? m).isSome then notes else notes ++ [(m, (run m s).1)]) := by
  cases hknown : g.get? m with
  | some modules =>
    rw [resolve_of_known hknown, resolve_of_known hknown]
    rfl
  | none =>
    rw [resolve_of_unknown hknown, resolve_of_unknown hknown]
    rfl

/-- What is told of a call that is answered from memory. -/
lemma inquiry_of_known {modules : Path} (h : g.get? m = some modules) :
    inquiry run m g s = ⟨m, some modules, [], g⟩ := by
  rw [inquiry, resolve_noting, resolve_of_known h, h]
  rfl

/-- What is told of a call that runs the command. -/
lemma inquiry_of_unknown (h : g.get? m = none) :
    inquiry run m g s = ⟨m, (run m s).1.bind m.modulesIn, [(m, (run m s).1)],
      g.keep m ((run m s).1.bind m.modulesIn)⟩ := by
  rw [inquiry, resolve_noting, resolve_of_unknown h, h]
  rfl

/-! ## Calls, one after the other -/

/-- Nothing is known when nothing is told. -/
lemma tells_empty : empty.Tells [] := by
  simp [Tells, empty, get?]

/-- One more call is told. -/
lemma Tells.append {told : List Inquiry} {x : Inquiry} {g' : GlobalModules} (h : g.Tells told)
    (hnew : ∀ m modules, g'.get? m = some modules ↔
      g.get? m = some modules ∨ x.manager = m ∧ x.answer = some modules) :
    g'.Tells (told ++ [x]) := by
  intro m modules
  rw [hnew, h m modules]
  simp [or_and_right, exists_or]

/-- **Each call is what it should be** if what is known are the answers to the calls before. -/
theorem Tells.follows_inquiry {told : List Inquiry} (h : g.Tells told) :
    (inquiry run m g s).Follows told := by
  -- an answer that is told is known
  have hknows : ∀ y ∈ told, y.manager = m → y.answer.isSome → g.get? m = y.answer := by
    intro y hy hm hsome
    obtain ⟨modules, hmodules⟩ := Option.isSome_iff_exists.1 hsome
    rw [hmodules]
    exact (h m modules).2 ⟨y, hy, hm, hmodules⟩
  cases hknown : g.get? m with
  | some modules =>
    obtain ⟨y, hy, hm, hmodules⟩ := (h m modules).1 hknown
    rw [inquiry_of_known hknown]
    refine ⟨iff_of_true rfl ⟨y, hy, hm, hmodules ▸ rfl⟩, fun y hy hm hsome => ?_,
      fun hruns => absurd rfl hruns, h.append fun m' modules' => ?_⟩
    · rw [← hknows y hy hm hsome, hknown]
    · refine (or_iff_left_of_imp ?_).symm
      rintro ⟨rfl, hmodules⟩
      rw [hknown, ← hmodules]
  | none =>
    have hnever : ∀ y ∈ told, y.manager = m → ¬ y.answer.isSome := by
      intro y hy hm hsome
      rw [← hknows y hy hm hsome, hknown] at hsome
      cases hsome
    rw [inquiry_of_unknown hknown]
    refine ⟨iff_of_false (List.cons_ne_nil _ _) ?_,
      fun y hy hm hsome => absurd hsome (hnever y hy hm),
      fun _ => ⟨_, rfl, fun modules => Manager.gives_iff.symm⟩,
      h.append fun m' modules' => get?_keep hknown⟩
    rintro ⟨y, hy, hm, hsome⟩
    exact hnever y hy hm hsome

/-- The calls that are told are those that were made. -/
lemma map_manager_inquiries (ms : List Manager) :
    (inquiries run ms g s).map (·.manager) = ms := by
  induction ms generalizing g s with
  | nil => rfl
  | cons m ms ih => exact congrArg (m :: ·) ih

/-- Each of the calls is what it should be after those before it, if what was known at first are the
answers to the calls before all of them. -/
lemma Tells.follows_inquiries {told : List Inquiry} (h : g.Tells told) {ms : List Manager}
    {before after : List Inquiry} {x : Inquiry}
    (hcalls : inquiries run ms g s = before ++ x :: after) : x.Follows (told ++ before) := by
  induction ms generalizing told before g s with
  | nil => exact absurd hcalls.symm (List.append_ne_nil_of_right_ne_nil _ (List.cons_ne_nil _ _))
  | cons m ms ih =>
    have hfirst : (inquiry run m g s).Follows told := h.follows_inquiry
    cases before with
    | nil =>
      obtain ⟨rfl, -⟩ := List.cons.inj hcalls
      rwa [List.append_nil]
    | cons y before =>
      obtain ⟨rfl, hrest⟩ := List.cons.inj hcalls
      have hnext := ih hfirst.known_tells hrest
      rwa [List.append_assoc] at hnext

end

/-- **A manager is asked until its directory is found, and never again.** Whatever the commands do,
and however the calls for the managers are mixed: the command of a manager is run just if no earlier
call for that manager had an answer; it has one just if the lines of its output report a directory,
and every later call for the manager has the same. A call that had no answer leaves no trace, and
what is known of other managers stays as it is. -/
theorem asked_until_found {σ : Type} (run : Manager → σ → Option Transcript × σ) (s : σ)
    (ms : List Manager) :
    (inquiries run ms empty s).map (·.manager) = ms ∧
      ∀ before x after, inquiries run ms empty s = before ++ x :: after → x.Follows before :=
  ⟨map_manager_inquiries ms, fun _ _ _ hcalls => tells_empty.follows_inquiries hcalls⟩

/-- Commands that do what is written down for them, one after the other. -/
def scripted (_ : Manager) :
    List (Option Transcript) → Option Transcript × List (Option Transcript)
  | [] => (none, [])
  | ran :: script => (ran, script)

/-- A command that writes no record, one that names a directory and fails, one that writes two
records, and one that cannot be started. -/
def script : List (Option Transcript) :=
  [some ⟨[(.output, Text.encode "/y\n")], .exited 0⟩,
    some ⟨[(.output, Text.encode " \r\n/opt"), (.output, Text.encode "/npm\n/n\n")], .exited 1⟩,
    some ⟨[(.output, Text.encode "[1]\n\x7b\"type\":\"log\",\"data\":\" /y \"\x7d")], .killed 9⟩,
    none]

/-- The first of three calls for the same manager has no answer, the second one asks again, and the
third one is answered from memory. -/
theorem asked_until_found_scripted :
    (inquiries scripted [.yarn, .npm, .yarn, .yarn, .pnpm] empty script).map (·.answer) =
        [none, some ⟨"/opt/npm/lib/node_modules"⟩, some ⟨"/y/node_modules"⟩,
          some ⟨"/y/node_modules"⟩, none] ∧
      ∃ before x after,
        inquiries scripted [.yarn, .npm, .yarn, .yarn, .pnpm] empty script =
            before ++ x :: after ∧
          before.length = 3 ∧ x.runs = [] ∧ x.Follows before := by
  obtain ⟨-, hfollows⟩ := asked_until_found scripted script [.yarn, .npm, .yarn, .yarn, .pnpm]
  let told := inquiries scripted [.yarn, .npm, .yarn, .yarn, .pnpm] empty script
  have hsplit : told = told.take 3 ++ told.get ⟨3, by decide +kernel⟩ :: told.drop 4 := by
    decide +kernel
  exact ⟨by decide +kernel, _, _, _, hsplit, by decide +kernel, by decide +kernel,
    hfollows _ _ _ hsplit⟩

end GlobalModules

end LintPool
