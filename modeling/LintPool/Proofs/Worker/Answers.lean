import LintPool.Proofs.Json.Layouts
import LintPool.Worker.Finding

set_option autoImplicit false

/-!
# What a reply makes of a request

A worker may answer with anything that is JSON. Here is said, without the decoders, what each answer
comes to: an error that is not null fails the request with what it complains of, whatever its shape
is; else a missing or null result is nothing; else the result is the record of a finding, or the
request fails with a word about why it is not. No answer counts as a crash.

## Main definitions

* `LintPool.ErrorRecord`, `LintPool.Complains` — what an error complains of.
* `LintPool.Recorded` — the values that are the record of a finding.
* `LintPool.Answers` — what a reply with the given fields comes to.

## Main results

* `LintPool.read_eq_ok_iff` — the record of a finding is read as that finding, and nothing else is.
* `LintPool.settle_eq_iff` — a reply settles a request with what it comes to.
* `LintPool.answers_write` — a finding comes back from its own record.
-/

namespace LintPool

open Json (Ascending Decoded Field Orderly Schema lookup ofText?)

/-! ## What replies say -/

/-- A value is the number of an error: an integer of 64 bits, its sign included. -/
def IsErrorCode (j : Json) : Prop :=
  ∃ i : Int, j = .int i ∧ -2 ^ 63 ≤ i ∧ i < 2 ^ 63

/-- A value is an error record with a message: an object with that message and, if it has a code,
with a number for it, or the array of a number and the message. -/
inductive ErrorRecord : Json → String → Prop
  | object {fields : List (String × Json)} {message : String}
    (hcode : ∀ code, lookup "code" fields = some code → IsErrorCode code)
    (hmessage : lookup "message" fields = some (.str message)) :
    ErrorRecord (.obj fields) message
  | array {code : Json} (message : String) (hcode : IsErrorCode code) :
    ErrorRecord (.arr [code, .str message]) message

/-- What an error complains of: its message if it is an error record, itself if it is a text, and
else its own text as JSON. -/
inductive Complains : Json → String → Prop
  | record {e : Json} {message : String} (h : ErrorRecord e message) : Complains e message
  | text (message : String) : Complains (.str message) message
  | other {e : Json} (hrecord : ∀ message, ¬ ErrorRecord e message)
    (htext : ∀ message, e ≠ .str message) : Complains e e.render

/-- The task that asks for a finding. -/
def Finding.task : Finding → Task
  | .outcome _ => .lint
  | .linter _ => .resolve

/-- A value is the record of a finding: an object with its fields, of which the version may be
missing or null, or the array of the fields in the order of declaration. -/
inductive Recorded : Json → Finding → Prop
  | outcome {fields : List (String × Json)} {path : String} {result : Json}
    (hpath : lookup "resolvedPath" fields = some (.str path))
    (hresult : lookup "linterResult" fields = some result) :
    Recorded (.obj fields) (.outcome ⟨⟨path⟩, result⟩)
  | outcomeItems (path : String) (result : Json) :
    Recorded (.arr [.str path, result]) (.outcome ⟨⟨path⟩, result⟩)
  | linter {fields : List (String × Json)} {entry path : String} {version : Option String}
    (hentry : lookup "entryPath" fields = some (.str entry))
    (hpath : lookup "resolvedPath" fields = some (.str path))
    (hversion : (lookup "version" fields).getD .null = ofText? version) :
    Recorded (.obj fields) (.linter ⟨⟨entry⟩, ⟨path⟩, version⟩)
  | linterItems (entry path : String) (version : Option String) :
    Recorded (.arr [.str entry, .str path, ofText? version]) (.linter ⟨⟨entry⟩, ⟨path⟩, version⟩)

/-- A reply with the given fields carries an error that is not null. -/
def CarriesError (fields : List (String × Json)) (e : Json) : Prop :=
  lookup "error" fields = some e ∧ e ≠ .null

/-- A reply with the given fields carries a result that is not null, and no error. -/
def CarriesResult (fields : List (String × Json)) (value : Json) : Prop :=
  (∀ e, ¬ CarriesError fields e) ∧ lookup "result" fields = some value ∧ value ≠ .null

/-- **What a reply with the given fields comes to**, for a request with a task. -/
inductive Answers (task : Task) (fields : List (String × Json)) : CallResult → Prop
  | complaint {e : Json} {message : String} (herror : CarriesError fields e)
    (h : Complains e message) : Answers task fields (.error (.failed message))
  | nothing (herror : ∀ e, ¬ CarriesError fields e)
    (hresult : ∀ value, ¬ CarriesResult fields value) : Answers task fields (.ok none)
  | finding {value : Json} {f : Finding} (hresult : CarriesResult fields value)
    (htask : f.task = task) (h : Recorded value f) : Answers task fields (.ok (some f))
  | malformed {value : Json} {e : Json.DecodeError} (hresult : CarriesResult fields value)
    (h : ∀ f, f.task = task → ¬ Recorded value f) (he : Finding.read task value = .error e) :
    Answers task fields (.error (.failed s!"malformed {task.method.name} result: {e.message}"))

/-! ## Layouts -/

/-- A path is read from its text. -/
lemma Path.read_eq_ok_iff {j : Json} {p : Path} : Path.read j = .ok p ↔ j = .str p.text := by
  obtain ⟨text⟩ := p
  cases j <;> simp [Path.read, Json.asText, Except.map]

/-- The schema of an error in a reply is lawful. -/
lemma ReplyError.schema_lawful : ReplyError.schema.Lawful where
  names := by decide
  commute := List.pairwise_pair.2 (Field.commutes_of fun _ _ _ => rfl)

/-- The schema of an outcome of linting is lawful. -/
lemma LintOutcome.schema_lawful : LintOutcome.schema.Lawful where
  names := by decide
  commute := List.pairwise_pair.2 (Field.commutes_of fun _ _ _ => rfl)

/-- The schema of a linter that was resolved is lawful. -/
lemma ResolvedLinter.schema_lawful : ResolvedLinter.schema.Lawful where
  names := by decide
  commute := by
    refine .cons (List.forall_mem_cons.2 ⟨?_, List.forall_mem_singleton.2 ?_⟩)
      (List.pairwise_pair.2 ?_) <;>
      exact Field.commutes_of fun _ _ _ => rfl

section

variable {fields : List (String × Json)}

/-- An object is read as an error in a reply by its code, or zero, and its message. -/
lemma ReplyError.readObject_eq_ok_iff (hfields : Ascending fields) {e : ReplyError} :
    ReplyError.schema.readObject fields = .ok e ↔
      ((lookup "code" fields).getD (.int 0) = .int e.code ∧ e.code < 2 ^ 63) ∧
        lookup "message" fields = some (.str e.message) := by
  obtain ⟨code, message⟩ := e
  rw [Schema.readObject_eq_ok_iff schema_lawful hfields, Schema.missing?_eq_none_iff]
  cases hcode : lookup "code" fields <;> cases hmessage : lookup "message" fields <;>
    simp [Schema.taken, schema, hcode, hmessage, Schema.putAll_cons_eq_ok_iff,
      Field.put_of_eq_ok_iff, Json.asText_eq_ok_iff, Json.asInteger_eq_ok_iff]
  -- Without a code, the number is zero, which is in range.
  case none.some =>
    have hzero : (0 = code ∧ code < 9223372036854775808) ↔ 0 = code := by omega
    rw [hzero, and_comm]

/-- An object is read as an outcome of linting by its two fields. -/
lemma LintOutcome.readObject_eq_ok_iff (hfields : Ascending fields) {o : LintOutcome} :
    LintOutcome.schema.readObject fields = .ok o ↔
      lookup "resolvedPath" fields = some (.str o.resolvedPath.text) ∧
        lookup "linterResult" fields = some o.linterResult := by
  obtain ⟨path, result⟩ := o
  rw [Schema.readObject_eq_ok_iff schema_lawful hfields, Schema.missing?_eq_none_iff]
  cases hpath : lookup "resolvedPath" fields <;> cases hresult : lookup "linterResult" fields <;>
    simp [Schema.taken, schema, Json.pathField, hpath, hresult, Schema.putAll_cons_eq_ok_iff,
      Field.put_of_eq_ok_iff, Path.read_eq_ok_iff]

/-- An object is read as a linter that was resolved by two paths and a version, or none. -/
lemma ResolvedLinter.readObject_eq_ok_iff (hfields : Ascending fields) {l : ResolvedLinter} :
    ResolvedLinter.schema.readObject fields = .ok l ↔
      lookup "entryPath" fields = some (.str l.entryPath.text) ∧
        lookup "resolvedPath" fields = some (.str l.resolvedPath.text) ∧
          (lookup "version" fields).getD .null = ofText? l.version := by
  obtain ⟨entry, path, version⟩ := l
  rw [Schema.readObject_eq_ok_iff schema_lawful hfields, Schema.missing?_eq_none_iff]
  cases hentry : lookup "entryPath" fields <;> cases hpath : lookup "resolvedPath" fields <;>
    cases hversion : lookup "version" fields <;>
    simp [Schema.taken, schema, Json.pathField, Json.optionalField, hentry, hpath, hversion,
      Schema.putAll_cons_eq_ok_iff, Field.put_of_eq_ok_iff, Path.read_eq_ok_iff,
      Json.optional_asText_eq_ok_iff]

end

section

variable {items : List Json} {count : Nat}

/-- An array is read as an error in a reply if it has a code and a message. -/
lemma ReplyError.putItems_eq_ok_iff {e : ReplyError} :
    schema.putItems count schema.fields items schema.blank = .ok e ↔
      items = [.int e.code, .str e.message] ∧ e.code < 2 ^ 63 := by
  obtain ⟨code, message⟩ := e
  rw [Schema.putItems_eq_ok_iff rfl]
  match items with
  | [] | [_] | _ :: _ :: _ :: _ => simp [schema]
  | [c, m] =>
    simp [schema, Schema.putAll_cons_eq_ok_iff, Field.put_of_eq_ok_iff, Json.asText_eq_ok_iff,
      Json.asInteger_eq_ok_iff, and_right_comm]

/-- An array is read as an outcome of linting if it has a path and a result. -/
lemma LintOutcome.putItems_eq_ok_iff {o : LintOutcome} :
    schema.putItems count schema.fields items schema.blank = .ok o ↔
      items = [.str o.resolvedPath.text, o.linterResult] := by
  obtain ⟨path, result⟩ := o
  rw [Schema.putItems_eq_ok_iff rfl]
  match items with
  | [] | [_] | _ :: _ :: _ :: _ => simp [schema]
  | [p, v] =>
    simp [schema, Json.pathField, Schema.putAll_cons_eq_ok_iff, Field.put_of_eq_ok_iff,
      Path.read_eq_ok_iff]

/-- An array is read as a linter that was resolved if it has two paths and a version, or null. -/
lemma ResolvedLinter.putItems_eq_ok_iff {l : ResolvedLinter} :
    schema.putItems count schema.fields items schema.blank = .ok l ↔
      items = [.str l.entryPath.text, .str l.resolvedPath.text, ofText? l.version] := by
  obtain ⟨entry, path, version⟩ := l
  rw [Schema.putItems_eq_ok_iff rfl]
  match items with
  | [] | [_] | [_, _] | _ :: _ :: _ :: _ :: _ => simp [schema]
  | [e, p, v] =>
    simp [schema, Json.pathField, Json.optionalField, Schema.putAll_cons_eq_ok_iff,
      Field.put_of_eq_ok_iff, Path.read_eq_ok_iff, Json.optional_asText_eq_ok_iff]

end

/-! ## Errors -/

/-- An integer in an orderly value that is below 2⁶³ is the number of an error. -/
lemma isErrorCode_of_lt {i : Int} (h : (Json.int i).Orderly) (hlt : i < 2 ^ 63) :
    IsErrorCode (.int i) := by
  cases h with
  | int hlow _ => exact ⟨i, rfl, hlow, hlt⟩

/-- An error record is read as such, and nothing else is. -/
lemma errorRecord_iff {e : Json} (he : e.Orderly) {message : String} :
    ErrorRecord e message ↔ ∃ code, ReplyError.schema.read e = .ok ⟨code, message⟩ := by
  cases he with
  | @obj fields hkeys hfields =>
    simp only [Schema.read, ReplyError.readObject_eq_ok_iff hkeys]
    constructor
    · rintro (@⟨_, _, hcode, hmessage⟩ | _)
      cases hlookup : lookup "code" fields with
      | none => exact ⟨0, ⟨rfl, by decide⟩, hmessage⟩
      | some code =>
        obtain ⟨i, rfl, -, hlt⟩ := hcode code hlookup
        exact ⟨i, ⟨rfl, hlt⟩, hmessage⟩
    · rintro ⟨i, ⟨hcode, hlt⟩, hmessage⟩
      refine .object (fun code hlookup => ?_) hmessage
      rw [hlookup, Option.getD_some] at hcode
      subst hcode
      exact isErrorCode_of_lt ((Orderly.obj hkeys hfields).lookup hlookup) hlt
  | @arr items hitems =>
    simp only [Schema.read, ReplyError.putItems_eq_ok_iff]
    constructor
    · rintro (_ | ⟨message, i, rfl, -, hlt⟩)
      exact ⟨i, rfl, hlt⟩
    · rintro ⟨i, rfl, hlt⟩
      exact .array message (isErrorCode_of_lt (hitems _ List.mem_cons_self) hlt)
  | _ =>
    simp only [Schema.read, reduceCtorEq, exists_false, iff_false]
    rintro ⟨⟩

/-- The error that a reply carries is what its error complains of. -/
lemma complains_iff {e : Json} (he : e.Orderly) {message : String} :
    Complains e message ↔ (ReplyError.ofJson e).message = message := by
  rw [ReplyError.ofJson]
  cases hread : ReplyError.schema.read e with
  | ok r =>
    have hrecord : ErrorRecord e r.message := (errorRecord_iff he).2 ⟨r.code, hread⟩
    constructor
    · rintro (⟨h⟩ | _ | ⟨hnone, -⟩)
      · obtain ⟨code, h⟩ := (errorRecord_iff he).1 h
        rw [Except.ok.inj (hread.symm.trans h)]
      · cases hrecord
      · exact absurd hrecord (hnone _)
    · rintro rfl
      exact .record hrecord
  | error fault =>
    have hnone : ∀ message, ¬ ErrorRecord e message := by
      intro message h
      obtain ⟨code, h⟩ := (errorRecord_iff he).1 h
      cases hread.symm.trans h
    constructor
    · rintro (⟨h⟩ | _ | ⟨-, htext⟩)
      · exact absurd h (hnone _)
      · rfl
      · cases e with
        | str s => exact absurd rfl (htext s)
        | _ => rfl
    · rintro rfl
      cases e with
      | str s => exact .text s
      | _ => exact .other hnone fun _ => Json.noConfusion

/-! ## Findings -/

/-- The record of a lint outcome is read as it, and nothing else is. -/
lemma recorded_outcome_iff {value : Json} (hvalue : value.Orderly) {o : LintOutcome} :
    Recorded value (.outcome o) ↔ LintOutcome.schema.read value = .ok o := by
  cases hvalue with
  | obj hkeys hfields =>
    simp only [Schema.read, LintOutcome.readObject_eq_ok_iff hkeys]
    constructor
    · rintro ⟨hpath, hresult⟩
      exact ⟨hpath, hresult⟩
    · rintro ⟨hpath, hresult⟩
      exact .outcome hpath hresult
  | arr hitems =>
    simp only [Schema.read, LintOutcome.putItems_eq_ok_iff]
    constructor
    · rintro ⟨⟩
      rfl
    · rintro rfl
      exact .outcomeItems _ _
  | _ =>
    simp only [Schema.read, reduceCtorEq, iff_false]
    rintro ⟨⟩

/-- The record of a linter is read as it, and nothing else is. -/
lemma recorded_linter_iff {value : Json} (hvalue : value.Orderly) {l : ResolvedLinter} :
    Recorded value (.linter l) ↔ ResolvedLinter.schema.read value = .ok l := by
  cases hvalue with
  | obj hkeys hfields =>
    simp only [Schema.read, ResolvedLinter.readObject_eq_ok_iff hkeys]
    constructor
    · rintro ⟨⟩
      exact ⟨‹_›, ‹_›, ‹_›⟩
    · rintro ⟨hentry, hpath, hversion⟩
      exact .linter hentry hpath hversion
  | arr hitems =>
    simp only [Schema.read, ResolvedLinter.putItems_eq_ok_iff]
    constructor
    · rintro ⟨⟩
      rfl
    · rintro rfl
      exact .linterItems _ _ _
  | _ =>
    simp only [Schema.read, reduceCtorEq, iff_false]
    rintro ⟨⟩

/-- **The record of a finding is read as that finding** by the task that asks for it, and nothing
else is. -/
theorem read_eq_ok_iff {value : Json} (hvalue : value.Orderly) {task : Task} {f : Finding} :
    Finding.read task value = .ok f ↔ f.task = task ∧ Recorded value f := by
  cases task with
  | lint =>
    cases f <;> cases hread : LintOutcome.schema.read value <;>
      simp [Finding.read, Finding.task, recorded_outcome_iff hvalue, hread, Except.map]
  | resolve =>
    cases f <;> cases hread : ResolvedLinter.schema.read value <;>
      simp [Finding.read, Finding.task, recorded_linter_iff hvalue, hread, Except.map]

/-- What is written of a finding is its record. -/
lemma recorded_write (f : Finding) : Recorded f.write f := by
  cases f with
  | outcome o =>
    refine @Recorded.outcome _ o.resolvedPath.text _ ?_ ?_ <;>
      simp [Schema.declared, LintOutcome.schema, Json.sortFields, Json.lookup_setField,
        Json.pathField, Field.of, Path.write]
  | linter l =>
    have hversion : Json.writeOptional .str l.version = ofText? l.version := by
      cases l.version <;> rfl
    refine @Recorded.linter _ l.entryPath.text l.resolvedPath.text _ ?_ ?_ ?_ <;>
      simp [Schema.declared, ResolvedLinter.schema, Json.sortFields, Json.lookup_setField,
        Json.pathField, Json.optionalField, Field.of, Path.write, hversion]

/-! ## Replies -/

/-- Null passes the test for null, and nothing else does. -/
lemma isNull_iff {j : Json} : j.isNull = true ↔ j = .null := by
  cases j <;> simp [Json.isNull]

section

variable {fields : List (String × Json)} {task : Task} {result : CallResult}

/-- A reply with an error carries that. -/
lemma CarriesError.reply_eq {e : Json} (h : CarriesError fields e) :
    Reply.ofFields fields = .error (.ofJson e) := by
  obtain ⟨herror, hnull⟩ := h
  simp only [Reply.ofFields, herror, isNull_iff, hnull, if_false]

/-- A reply without an error carries a result. -/
lemma reply_of_not_carriesError (h : ∀ e, ¬ CarriesError fields e) :
    Reply.ofFields fields = .result ((lookup "result" fields).getD .null) := by
  cases herror : lookup "error" fields with
  | none => simp only [Reply.ofFields, herror]
  | some e =>
    have hnull : e = .null := by_contra fun hne => h e ⟨herror, hne⟩
    simp only [Reply.ofFields, herror, hnull, Json.isNull, if_true]

/-- A result that is the record of a finding settles a request with that. -/
lemma CarriesResult.settle_of_read {value : Json} {f : Finding} (h : CarriesResult fields value)
    (hread : Finding.read task value = .ok f) : task.settle (.ofFields fields) = .ok (some f) := by
  obtain ⟨herror, hresult, hnull⟩ := h
  rw [reply_of_not_carriesError herror, hresult, Option.getD_some]
  simp only [Task.settle, isNull_iff, hnull, if_false, hread]

/-- A result that is no such record fails it. -/
lemma CarriesResult.settle_of_read_error {value : Json} {e : Json.DecodeError}
    (h : CarriesResult fields value) (hread : Finding.read task value = .error e) :
    task.settle (.ofFields fields) =
      .error (.failed s!"malformed {task.method.name} result: {e.message}") := by
  obtain ⟨herror, hresult, hnull⟩ := h
  rw [reply_of_not_carriesError herror, hresult, Option.getD_some]
  simp only [Task.settle, isNull_iff, hnull, if_false, hread]

/-- Without a result, a request is settled with nothing. -/
lemma settle_of_not_carriesResult (herror : ∀ e, ¬ CarriesError fields e)
    (hresult : ∀ value, ¬ CarriesResult fields value) :
    task.settle (.ofFields fields) = .ok none := by
  rw [reply_of_not_carriesError herror]
  have hnull : (lookup "result" fields).getD .null = .null := by
    cases hlookup : lookup "result" fields with
    | none => rfl
    | some value => exact by_contra fun hne => hresult value ⟨herror, hlookup, hne⟩
  simp only [Task.settle, hnull, Json.isNull, if_true]

/-- A reply settles a request with something that it comes to. -/
lemma answers_settle (hfields : Orderly (.obj fields)) :
    Answers task fields (task.settle (.ofFields fields)) := by
  by_cases herror : ∃ e, CarriesError fields e
  · obtain ⟨e, he⟩ := herror
    rw [he.reply_eq]
    exact .complaint he ((complains_iff (hfields.lookup he.1)).2 rfl)
  · have herror : ∀ e, ¬ CarriesError fields e := not_exists.1 herror
    by_cases hresult : ∃ value, CarriesResult fields value
    · obtain ⟨value, hvalue⟩ := hresult
      have horderly : value.Orderly := hfields.lookup hvalue.2.1
      cases hread : Finding.read task value with
      | ok f =>
        obtain ⟨htask, hf⟩ := (read_eq_ok_iff horderly).1 hread
        rw [hvalue.settle_of_read hread]
        exact .finding hvalue htask hf
      | error e =>
        rw [hvalue.settle_of_read_error hread]
        refine .malformed hvalue (fun f htask hf => ?_) hread
        cases hread.symm.trans ((read_eq_ok_iff horderly).2 ⟨htask, hf⟩)
    · have hresult : ∀ value, ¬ CarriesResult fields value := not_exists.1 hresult
      rw [settle_of_not_carriesResult herror hresult]
      exact .nothing herror hresult

/-- **A reply settles a request with what it comes to**, and that is one thing only. -/
theorem settle_eq_iff (hfields : Orderly (.obj fields)) :
    task.settle (.ofFields fields) = result ↔ Answers task fields result := by
  constructor
  · rintro rfl
    exact answers_settle hfields
  · rintro (⟨he, h⟩ | ⟨herror, hresult⟩ | ⟨hvalue, htask, hf⟩ | ⟨hvalue, -, hread⟩)
    · rw [he.reply_eq, Task.settle, (complains_iff (hfields.lookup he.1)).1 h]
    · exact settle_of_not_carriesResult herror hresult
    · exact hvalue.settle_of_read ((read_eq_ok_iff (hfields.lookup hvalue.2.1)).2 ⟨htask, hf⟩)
    · exact hvalue.settle_of_read_error hread

/-- No reply counts as a crash, and none turns a caller away. -/
lemma Answers.not_crash (h : Answers task fields result) {e : WorkerError}
    (he : result = .error e) : e.isCrash = false ∧ e.isUnavailable = false := by
  cases h <;> cases he <;> exact ⟨rfl, rfl⟩

/-- **A finding comes back from its own record.** -/
theorem answers_write (f : Finding) (herror : ∀ e, ¬ CarriesError fields e)
    (hresult : lookup "result" fields = some f.write) : Answers f.task fields (.ok (some f)) := by
  have hnull : f.write ≠ .null := by cases f <;> exact Json.noConfusion
  exact .finding ⟨herror, hresult, hnull⟩ rfl (recorded_write f)

end

/-- A frame is a response just if it is an object that carries a number, whatever else is in it. -/
lemma ofFrame?_eq_response_iff {frame : Json} {id : Nat} {reply : Reply} :
    Incoming.ofFrame? frame = some (.response id reply) ↔
      ∃ fields, frame = .obj fields ∧ (lookup "id" fields).bind Json.word64? = some id ∧
        reply = .ofFields fields := by
  cases frame with
  | obj fields =>
    simp only [Incoming.ofFrame?, Json.obj.injEq, exists_eq_left']
    cases hid : (lookup "id" fields).bind Json.word64? with
    | some id' => simp [eq_comm]
    | none =>
      dsimp only
      split
      · split <;> simp
      · simp
  | _ => simp [Incoming.ofFrame?]

end LintPool
