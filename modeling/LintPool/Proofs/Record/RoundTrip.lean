import LintPool.Proofs.Worker.Answers
import LintPool.Record.Options

set_option autoImplicit false

/-!
# Records that are read again

A record is read from many values: from an object whose unknown fields are ignored and whose
optional fields may be missing or null, or from an array of the values of its fields, which for some
records may end early. It is written in one way. Read again from that, or from the array of what was
written for its fields, it is the record that it was.

## Main definitions

* `LintPool.Json.Schema.Given` — the values that a value gives for the fields of a record.
* `LintPool.Json.Inverts` — what is written of a field value is read as that.
* `LintPool.Json.Schema.Restores` — what is written for the fields of a record makes the record.
* `LintPool.Json.Schema.Survives` — a record comes back from what is written of it.

## Main results

* `LintPool.Json.Schema.read_eq_ok_iff` — a record is read as what the values make that are given.
* `LintPool.Json.Schema.Restores.read_write`, `LintPool.Json.Schema.Restores.read_items` — a record
  that is restored is read again in both forms.
* `LintPool.Json.Schema.invariant_of_read` — what decoding a field preserves holds of what is read.
* `LintPool.records_survive` — all records that travel are read again.
-/

namespace LintPool

namespace Json

variable {ρ : Type}

/-! ## Values that are given for fields -/

namespace Schema

variable {s : Schema ρ}

/-- The values that a value gives for the fields of a record, in the order of declaration: those of
an object that has all required fields, or the items of an array, which has as many as there are
fields unless it may end early. -/
inductive Given (s : Schema ρ) : Json → List (Field ρ × Json) → Prop
  | object {fields : List (String × Json)}
    (h : ∀ f ∈ s.fields, f.required = true → (lookup f.name fields).isSome) :
    Given s (.obj fields) (s.taken fields)
  | array {items : List Json} (h : items.length ≤ s.fields.length)
    (hend : s.mayEndEarly = true ∨ items.length = s.fields.length) :
    Given s (.arr items) (s.fields.zip items)

/-- An array is read item by item, if it has not too many items nor ends too early. -/
lemma putItems_eq_ok_iff_zip {count : Nat} {fields : List (Field ρ)} {items : List Json}
    {r r' : ρ} : s.putItems count fields items r = .ok r' ↔
      (items.length ≤ fields.length ∧ (s.mayEndEarly = true ∨ items.length = fields.length)) ∧
        putAll (fields.zip items) r = .ok r' := by
  induction fields generalizing items r with
  | nil => cases items <;> simp [putItems]
  | cons f fields ih =>
    cases items with
    | nil => cases hend : s.mayEndEarly <;> simp [putItems, hend]
    | cons j items =>
      rw [putItems, List.zip_cons_cons, putAll]
      cases f.put j r with
      | error e => simp [Except.bind]
      | ok r₁ => simpa [Except.bind] using ih

/-- **A record is read as what the values make that are given for its fields**, one after the other
in the order of declaration. -/
theorem read_eq_ok_iff (hs : s.Lawful) {j : Json} (hj : j.Orderly) {r : ρ} :
    s.read j = .ok r ↔ ∃ values, s.Given j values ∧ putAll values s.blank = .ok r := by
  cases hj with
  | obj hkeys _ =>
    rw [read, readObject_eq_ok_iff hs hkeys, missing?_eq_none_iff]
    constructor
    · rintro ⟨h, hmake⟩
      exact ⟨_, .object h, hmake⟩
    · rintro ⟨_, ⟨h⟩, hmake⟩
      exact ⟨h, hmake⟩
  | arr _ =>
    rw [read, putItems_eq_ok_iff_zip]
    constructor
    · rintro ⟨⟨h, hend⟩, hmake⟩
      exact ⟨_, .array h hend, hmake⟩
    · rintro ⟨_, ⟨_⟩ | ⟨h, hend⟩, hmake⟩
      exact ⟨⟨h, hend⟩, hmake⟩
  | _ =>
    refine iff_of_false (by simp [read]) ?_
    rintro ⟨_, ⟨⟩, -⟩

/-! ## What holds of all records that are read -/

/-- What decoding each field preserves is preserved by decoding values into fields. -/
lemma invariant_of_putAll {P : ρ → Prop} {values : List (Field ρ × Json)}
    (hput : ∀ p ∈ values, ∀ j r r', P r → p.1.put j r = .ok r' → P r') {r r' : ρ} (h : P r)
    (hmake : putAll values r = .ok r') : P r' := by
  induction values generalizing r with
  | nil =>
    cases putAll_nil_eq_ok_iff.1 hmake
    exact h
  | cons p values ih =>
    obtain ⟨f, j⟩ := p
    obtain ⟨r₁, hfirst, hrest⟩ := putAll_cons_eq_ok_iff.1 hmake
    obtain ⟨hf, hvalues⟩ := List.forall_mem_cons.1 hput
    exact ih hvalues (hf j r r₁ h hfirst) hrest

/-- **What decoding each field preserves holds of what is read**, if it holds of the record that
decoding starts from. -/
theorem invariant_of_read {P : ρ → Prop} (hblank : P s.blank)
    (hput : ∀ f ∈ s.fields, ∀ j r r', P r → f.put j r = .ok r' → P r') {j : Json} {r : ρ}
    (h : s.read j = .ok r) : P r := by
  cases j with
  | obj fields =>
    have hmake : s.putFields fields s.blank = .ok r := by
      rw [read, readObject] at h
      split at h
      · cases h
      · split at h
        · cases h
        · rename_i hmake _ _
          rwa [Except.ok.inj h] at hmake
    rw [putFields_eq] at hmake
    refine invariant_of_putAll (fun p hp => ?_) hblank hmake
    obtain ⟨e, -, he⟩ := List.mem_filterMap.1 hp
    obtain ⟨f, hf, rfl⟩ := Option.map_eq_some_iff.1 he
    exact hput f (List.mem_of_find?_eq_some hf)
  | arr items =>
    obtain ⟨-, hmake⟩ := putItems_eq_ok_iff_zip.1 h
    exact invariant_of_putAll (fun p hp => hput p.1 (List.of_mem_zip hp).1) hblank hmake
  | _ => cases h

/-! ## Records that are read from what is written of them -/

/-- What is written for the fields of a record makes the record. -/
def Restores (s : Schema ρ) (r : ρ) : Prop :=
  putAll (s.fields.map fun f => (f, f.get r)) s.blank = .ok r

/-- The array of what is written for the fields of a record, in the order of declaration. -/
def items (s : Schema ρ) (r : ρ) : Json := .arr ((s.declared r).map (·.2))

end Schema

/-- A field that is not among those that are set is as before. -/
lemma lookup_foldl_setField_of_notMem {key : String} {fields done : List (String × Json)}
    (h : key ∉ fields.map (·.1)) :
    lookup key (fields.foldl (fun done f => setField f.1 f.2 done) done) = lookup key done := by
  induction fields generalizing done with
  | nil => rfl
  | cons f fields ih =>
    rw [List.map_cons, List.mem_cons, not_or] at h
    rw [List.foldl_cons, ih h.2, lookup_setField, if_neg (Ne.symm h.1)]

/-- Of fields with names of their own, each is found. -/
lemma lookup_sortFields {fields : List (String × Json)} (hnames : (fields.map (·.1)).Nodup)
    {key : String} {value : Json} (h : (key, value) ∈ fields) :
    lookup key (sortFields fields) = some value := by
  obtain ⟨before, after, rfl⟩ := List.append_of_mem h
  rw [List.map_append, List.map_cons] at hnames
  have hafter : key ∉ after.map (·.1) :=
    (List.nodup_cons.1 (List.nodup_append.1 hnames).2.1).1
  rw [sortFields, List.foldl_append, List.foldl_cons, lookup_foldl_setField_of_notMem hafter,
    lookup_setField, if_pos rfl]

namespace Schema

variable {s : Schema ρ} {r : ρ}

/-- Of what is written of a record, each field is found. -/
lemma Lawful.lookup_declared (hs : s.Lawful) {f : Field ρ} (hf : f ∈ s.fields) :
    lookup f.name (sortFields (s.declared r)) = some (f.get r) := by
  have hnames : (s.declared r).map (·.1) = s.fields.map (·.name) := by
    rw [declared, List.map_map]
    rfl
  exact lookup_sortFields (hnames ▸ hs.names) (List.mem_map_of_mem hf)

/-- **A record is read from what is written of it.** -/
theorem Restores.read_write (h : s.Restores r) (hs : s.Lawful) : s.read (s.write r) = .ok r := by
  have htaken : s.taken (sortFields (s.declared r)) = s.fields.map fun f => (f, f.get r) := by
    rw [taken, ← List.filterMap_eq_map]
    refine List.filterMap_congr fun f hf => ?_
    rw [hs.lookup_declared hf]
    rfl
  refine (readObject_eq_ok_iff hs (sortFields_spec _).1).2 ⟨missing?_eq_none_iff.2 ?_, htaken ▸ h⟩
  intro f hf _
  rw [hs.lookup_declared hf]
  rfl

/-- **A record is read from the array of what is written for its fields.** -/
theorem Restores.read_items (h : s.Restores r) : s.read (s.items r) = .ok r := by
  have hitems : (s.declared r).map (·.2) = s.fields.map (·.get r) := by
    rw [declared, List.map_map]
    rfl
  rw [items, hitems, read, putItems_eq_ok_iff_zip, List.length_map]
  refine ⟨⟨le_rfl, .inr rfl⟩, ?_⟩
  rw [← List.map_prod_left_eq_zip]
  exact h

/-- A record comes back from what is written of it, which is then written as before, and from the
array of what is written for its fields. -/
structure Survives (s : Schema ρ) (r : ρ) : Prop where
  /-- It is read again, as it was. -/
  read_write : s.read (s.write r) = .ok r
  /-- It is written again, as it was. -/
  write_read : (s.read (s.write r)).map s.write = .ok (s.write r)
  /-- It is read from its array. -/
  read_items : s.read (s.items r) = .ok r

/-- A record that is made of what is written for its fields survives. -/
lemma Restores.survives (h : s.Restores r) (hs : s.Lawful) : s.Survives r where
  read_write := h.read_write hs
  write_read := by
    rw [h.read_write hs]
    rfl
  read_items := h.read_items

end Schema

/-! ## Values of fields that are read again -/

/-- What is written of a field value is read as that. -/
def Inverts {α : Type} (read : Json → Decoded α) (write : α → Json) : Prop :=
  ∀ a, read (write a) = .ok a

/-- A value that may be absent is read as it was written, if a value that is there is never written
as null. -/
lemma Inverts.optional {α : Type} {read : Json → Decoded α} {write : α → Json}
    (h : Inverts read write) (hnull : ∀ a, write a ≠ .null) :
    Inverts (optional read) (writeOptional write) := by
  intro a
  cases a with
  | none => rfl
  | some a =>
    have hsome : Json.optional read (write a) = (read (write a)).map some := by
      cases hwrite : write a with
      | null => exact absurd hwrite (hnull a)
      | _ => rfl
    rw [writeOptional, hsome, h a]
    rfl

/-- A value of any kind that may be absent is read as it was written, if it is not null. -/
lemma optional_ok_writeOptional {value : Option Json} (h : value ≠ some .null) :
    Json.optional .ok (writeOptional id value) = .ok value := by
  rcases value with _ | value
  · rfl
  · cases value with
    | null => exact absurd rfl h
    | _ => rfl

/-- Such a value is never read as null. -/
lemma ne_null_of_optional_ok {j : Json} {value : Option Json}
    (h : Json.optional .ok j = .ok value) : value ≠ some .null := by
  rintro rfl
  cases j <;> simp [Json.optional, Except.map] at h

/-- A field takes what was written for it, if that is read as what the field holds. -/
lemma Schema.putAll_cons_of {α : Type} {name : String} {required : Bool}
    {decode : Json → Decoded α} {encode : α → Json} {get : ρ → α} {set : α → ρ → ρ} {r : ρ}
    (h : decode (encode (get r)) = .ok (get r)) (rest : List (Field ρ × Json)) (r₀ : ρ) :
    let f := Field.of name required decode encode get set
    putAll ((f, f.get r) :: rest) r₀ = putAll rest (set (get r) r₀) := by
  have hput : (Field.of name required decode encode get set).put (encode (get r)) r₀ =
      .ok (set (get r) r₀) := Field.put_of_eq_ok_iff.2 ⟨_, h, rfl⟩
  intro f
  rw [putAll]
  exact congrArg (·.bind (putAll rest)) hput

end Json

open Json (Decoded Field Inverts Schema)

/-- Managers are written by their names. -/
lemma Manager.inverts_read : Inverts read write := by
  intro m
  cases m <;> rfl

/-- Paths are written as texts. -/
lemma Path.inverts_read : Inverts read write := fun _ => rfl

/-! ## Records that travel -/

/-- The schema of the options for a runner is lawful. -/
lemma RunnerOptions.schema_lawful : RunnerOptions.schema.Lawful where
  names := by decide
  commute := by
    simp only [schema, List.pairwise_cons, List.forall_mem_cons, List.not_mem_nil,
      IsEmpty.forall_iff, implies_true, List.Pairwise.nil, and_true]
    and_intros <;> exact Field.commutes_of fun _ _ _ => rfl

/-- The schema of the options for linting is lawful. -/
lemma LintOptions.schema_lawful : LintOptions.schema.Lawful where
  names := by decide
  commute := by
    simp only [schema, List.pairwise_cons, List.forall_mem_cons, List.not_mem_nil,
      IsEmpty.forall_iff, implies_true, List.Pairwise.nil, and_true]
    and_intros <;> exact Field.commutes_of fun _ _ _ => rfl

/-- The schema of a loader's configuration is lawful. -/
lemma PnpConfiguration.schema_lawful : PnpConfiguration.schema.Lawful where
  names := by decide
  commute := List.pairwise_pair.2 (Field.commutes_of fun _ _ _ => rfl)

/-- A text that may be absent is read as it was written. -/
lemma Json.inverts_optional_asText :
    Inverts (Json.optional (Json.asText .text)) (Json.writeOptional .str) :=
  Inverts.optional (fun _ => rfl) fun _ => nofun

/-- So is a path. -/
lemma Path.inverts_optional : Inverts (Json.optional read) (Json.writeOptional write) :=
  inverts_read.optional fun _ => nofun

/-- So is a manager. -/
lemma Manager.inverts_optional : Inverts (Json.optional read) (Json.writeOptional write) :=
  inverts_read.optional fun _ => nofun

/-- What is written for the fields of the options makes the options if the configuration is not
null, which is how an absent one is written. -/
lemma RunnerOptions.restores {r : RunnerOptions} (h : r.config ≠ some .null) :
    schema.Restores r := by
  simp only [Schema.Restores, schema, Json.optionalPath, Json.optionalField, List.map_cons,
    List.map_nil]
  rw [Schema.putAll_cons_of (Path.inverts_optional _),
    Schema.putAll_cons_of (Manager.inverts_optional _),
    Schema.putAll_cons_of (Json.inverts_optional_asText _),
    Schema.putAll_cons_of (Json.optional_ok_writeOptional h),
    Schema.putAll_cons_of (Path.inverts_optional _),
    Schema.putAll_cons_of (Path.inverts_optional _)]
  rfl

/-- A configuration that is read is not null. -/
lemma RunnerOptions.config_ne_null {j : Json} {r : RunnerOptions} (h : schema.read j = .ok r) :
    r.config ≠ some .null := by
  have hblank : blank.config ≠ some .null := nofun
  refine Schema.invariant_of_read (P := fun r => r.config ≠ some .null) hblank ?_ h
  simp only [schema, List.forall_mem_cons, List.not_mem_nil, IsEmpty.forall_iff, implies_true,
    and_true, Json.optionalPath, Json.optionalField, Field.put_of_eq_ok_iff]
  refine ⟨?linter, ?manager, ?custom, ?config, ?file, ?folder⟩
  case config =>
    rintro j r _ - ⟨value, hvalue, rfl⟩
    exact Json.ne_null_of_optional_ok hvalue
  all_goals
    -- the other fields leave the configuration as it is
    rintro j r _ hr ⟨value, -, rfl⟩
    exact hr

/-- The fields that are written restore the options for linting. -/
lemma LintOptions.restores (o : LintOptions) : schema.Restores o := by
  simp only [Schema.Restores, schema, Json.optionalPath, Json.optionalField, Json.flagField,
    List.map_cons, List.map_nil]
  rw [Schema.putAll_cons_of rfl, Schema.putAll_cons_of (Path.inverts_optional _),
    Schema.putAll_cons_of rfl, Schema.putAll_cons_of rfl, Schema.putAll_cons_of rfl,
    Schema.putAll_cons_of rfl]
  rfl

/-- They restore an outcome of linting. -/
lemma LintOutcome.restores (o : LintOutcome) : schema.Restores o := rfl

/-- They restore a linter that was resolved. -/
lemma ResolvedLinter.restores (l : ResolvedLinter) : schema.Restores l := by
  simp only [Schema.Restores, schema, Json.pathField, Json.optionalField, List.map_cons,
    List.map_nil]
  rw [Schema.putAll_cons_of (Path.inverts_read _), Schema.putAll_cons_of (Path.inverts_read _),
    Schema.putAll_cons_of (Json.inverts_optional_asText _)]
  rfl

/-- They restore a loader's configuration. -/
lemma PnpConfiguration.restores (c : PnpConfiguration) : schema.Restores c := by
  simp only [Schema.Restores, schema, Json.pathField, Json.optionalPath, Json.optionalField,
    List.map_cons, List.map_nil]
  rw [Schema.putAll_cons_of (Path.inverts_read _), Schema.putAll_cons_of (Path.inverts_optional _)]
  rfl

/-- **All records that travel are read again.** Whatever value the options of a run or of a lint,
the outcome of a lint, a linter or a Plug'n'Play configuration is read from: what is written of the
record is read as the same record, and is what is written again; and so is the array of what is
written for its fields. -/
theorem records_survive :
    (∀ j r, RunnerOptions.schema.read j = .ok r → RunnerOptions.schema.Survives r) ∧
    (∀ j r, LintOptions.schema.read j = .ok r → LintOptions.schema.Survives r) ∧
    (∀ j r, LintOutcome.schema.read j = .ok r → LintOutcome.schema.Survives r) ∧
    (∀ j r, ResolvedLinter.schema.read j = .ok r → ResolvedLinter.schema.Survives r) ∧
    ∀ j r, PnpConfiguration.schema.read j = .ok r → PnpConfiguration.schema.Survives r := by
  refine ⟨fun j r h => ?_, fun j r _ => ?_, fun j r _ => ?_, fun j r _ => ?_, fun j r _ => ?_⟩
  · exact (RunnerOptions.restores (RunnerOptions.config_ne_null h)).survives
      RunnerOptions.schema_lawful
  · exact (LintOptions.restores r).survives LintOptions.schema_lawful
  · exact (LintOutcome.restores r).survives LintOutcome.schema_lawful
  · exact (ResolvedLinter.restores r).survives ResolvedLinter.schema_lawful
  · exact (PnpConfiguration.restores r).survives PnpConfiguration.schema_lawful

/-- Options with an unknown field, a null and a manager that is an object; an array that ends early;
a result that is null; a linter without its version; and a configuration without a loader. -/
theorem records_survive_sparse :
    (∃ r, RunnerOptions.schema.read (.obj [("config", .null), ("extra", .int 1),
        ("packageManager", .obj [("yarn", .null)])]) = .ok r ∧
      r = { RunnerOptions.blank with packageManager := some .yarn } ∧
      RunnerOptions.schema.Survives r) ∧
    (∃ r, LintOptions.schema.read (.arr [.str "a", .null, .bool true]) = .ok r ∧
      r = { LintOptions.ofCode "a" none with fix := true } ∧ LintOptions.schema.Survives r) ∧
    (∃ r, LintOutcome.schema.read (.arr [.str "/l", .null]) = .ok r ∧ r = ⟨⟨"/l"⟩, .null⟩ ∧
      LintOutcome.schema.Survives r) ∧
    (∃ r, ResolvedLinter.schema.read (.obj [("entryPath", .str "/l/i"),
        ("resolvedPath", .str "/l")]) = .ok r ∧ r = ⟨⟨"/l/i"⟩, ⟨"/l"⟩, none⟩ ∧
      ResolvedLinter.schema.Survives r) ∧
    ∃ r, PnpConfiguration.schema.read (.obj [("loaderPath", .null),
        ("registerPath", .str "/r")]) = .ok r ∧ r = ⟨⟨"/r"⟩, none⟩ ∧
      PnpConfiguration.schema.Survives r := by
  have hread {ρ : Type} {s : Schema ρ} {j : Json} {r : ρ}
      (hs : ∀ j r, s.read j = .ok r → s.Survives r) (h : s.read j = .ok r) :
      ∃ r', s.read j = .ok r' ∧ r' = r ∧ s.Survives r' := ⟨r, h, rfl, hs j r h⟩
  obtain ⟨hrunner, hlint, houtcome, hlinter, hpnp⟩ := records_survive
  exact ⟨hread hrunner rfl, hread hlint rfl, hread houtcome rfl, hread hlinter rfl,
    hread hpnp rfl⟩

end LintPool
