import LintPool.Json.Printer
import LintPool.Text.Quoted

set_option autoImplicit false

/-!
# Records as JSON

A record is written as an object with all its fields. It is read from an object, whose unknown
fields are ignored, or from an array of the field values in the order of declaration. The fields of
an object are decoded in the order of their keys, so of two faulty fields the one with the lesser
key is reported; only then are the missing ones looked for, in the order of declaration.

## Main definitions

* `LintPool.Json.DecodeError` — why a value is not the record, and its wording.
* `LintPool.Json.asText`, `LintPool.Json.asFlag`, `LintPool.Json.optional` — decoders of field
  values.
* `LintPool.Json.Field`, `LintPool.Json.Schema` — the layout of a record.
* `LintPool.Json.Schema.read`, `LintPool.Json.Schema.write` — the two directions.
-/

namespace LintPool.Json

/-- What a decoder asks for. -/
inductive Expected where
  | text
  | path
  | flag
  | integer
  | nothing
  | variant
  | record (name : String)
  deriving Repr, DecidableEq

/-- The wording of what a decoder asks for. -/
def Expected.message : Expected → String
  | .text => "a string"
  | .path => "path string"
  | .flag => "a boolean"
  | .integer => "i64"
  | .nothing => "unit"
  | .variant => "string or map"
  | .record name => s!"struct {name}"

/-- Why a value cannot be decoded. -/
inductive DecodeError where
  /-- A field is missing. -/
  | missingField (name : String)
  /-- A value is of another kind than asked for. -/
  | wrongKind (found : Json) (expected : Expected)
  /-- A name is not among the known ones. -/
  | unknownVariant (name : String) (known : List String)
  /-- An object that should name a variant has not exactly one field. -/
  | notOneField
  /-- An array ends before the last field of a record. -/
  | tooFewItems (count : Nat) (record : String) (fields : Nat)
  /-- An array goes on after the last field of a record. -/
  | tooManyItems (count : Nat)
  deriving Repr, BEq

/-- The wording of the kind of a value; a simple value is shown itself. -/
def kind : Json → String
  | .null => "null"
  | .bool b => s!"boolean \x60{b}\x60"
  | .int i => s!"integer \x60{i}\x60"
  | .float x => s!"floating point \x60{x.render numberFormat}\x60"
  | .str s => s!"string {Text.quote s}"
  | .arr _ => "sequence"
  | .obj _ => "map"

/-- A name between backticks. -/
def backticked (name : String) : String :=
  s!"\x60{name}\x60"

/-- The wording of a decode error. -/
def DecodeError.message : DecodeError → String
  | .missingField name => s!"missing field {backticked name}"
  | .wrongKind found expected => s!"invalid type: {found.kind}, expected {expected.message}"
  | .unknownVariant name known =>
    s!"unknown variant {backticked name}, expected one of "
      ++ String.intercalate ", " (known.map backticked)
  | .notOneField => "invalid value: map, expected map with a single key"
  | .tooFewItems count record fields =>
    s!"invalid length {count}, expected struct {record} with {fields} elements"
  | .tooManyItems count => s!"invalid length {count}, expected fewer elements in array"

/-- The result of decoding. -/
abbrev Decoded (α : Type) := Except DecodeError α

/-! ## Field values -/

/-- Decodes a text, asked for as `expected`. -/
def asText (expected : Expected) : Json → Decoded String
  | .str s => .ok s
  | j => .error (.wrongKind j expected)

/-- Decodes a truth value. -/
def asFlag : Json → Decoded Bool
  | .bool b => .ok b
  | j => .error (.wrongKind j .flag)

/-- Decodes an integer of 64 bits with a sign. -/
def asInteger : Json → Decoded Int
  | .int i => if i < Nat.pow 2 63 then .ok i else .error (.wrongKind (.int i) .integer)
  | j => .error (.wrongKind j .integer)

/-- Decodes a value that may be null. -/
def optional {α : Type} (read : Json → Decoded α) : Json → Decoded (Option α)
  | .null => .ok none
  | j => (read j).map some

/-- Finds a variant by its name. -/
def readName {α : Type} (variants : List (String × α)) (name : String) : Decoded α :=
  match variants.find? (·.1 = name) with
  | some v => .ok v.2
  | none => .error (.unknownVariant name (variants.map (·.1)))

/-- Decodes a variant without content, written as its name or as an object that has the name for
its one key and null for its value. -/
def readVariant {α : Type} (variants : List (String × α)) : Json → Decoded α
  | .str name => readName variants name
  | .obj [(name, content)] => do
    let v ← readName variants name
    if content.isNull then .ok v else .error (.wrongKind content .nothing)
  | .obj _ => .error .notOneField
  | j => .error (.wrongKind j .variant)

/-! ## Records -/

/-- A field of a record of type `ρ`. -/
structure Field (ρ : Type) where
  /-- The key of the field. -/
  name : String
  /-- Whether an object must have the field. -/
  required : Bool
  /-- Decodes the value of the field into a record. -/
  put : Json → ρ → Decoded ρ
  /-- The value of the field of a record. -/
  get : ρ → Json

/-- The field that holds what `get` takes out of a record and `set` puts into it. -/
def Field.of {ρ α : Type} (name : String) (required : Bool) (decode : Json → Decoded α)
    (encode : α → Json) (get : ρ → α) (set : α → ρ → ρ) : Field ρ :=
  { name, required
    put := fun j r => (decode j).map (set · r)
    get := fun r => encode (get r) }

/-- The layout of a record. -/
structure Schema (ρ : Type) where
  /-- The name of the record in messages. -/
  name : String
  /-- The fields in the order of declaration. -/
  fields : List (Field ρ)
  /-- Whether an array may end before the last field. -/
  mayEndEarly : Bool
  /-- The record that decoding starts from; it holds the defaults of fields that may be missing. -/
  blank : ρ

namespace Schema

variable {ρ : Type}

/-- The field of a key. -/
def field? (s : Schema ρ) (key : String) : Option (Field ρ) :=
  s.fields.find? (·.name = key)

/-- Decodes the known fields of an object in the order of the list. -/
def putFields (s : Schema ρ) : List (String × Json) → ρ → Decoded ρ
  | [], r => .ok r
  | (key, value) :: rest, r =>
    match s.field? key with
    | none => s.putFields rest r
    | some f =>
      match f.put value r with
      | .ok r => s.putFields rest r
      | .error e => .error e

/-- The first required field, in the order of declaration, that an object lacks. -/
def missing? (s : Schema ρ) (given : List (String × Json)) : Option String :=
  (s.fields.find? fun f => f.required && (lookup f.name given).isNone).map (·.name)

/-- Decodes an object. -/
def readObject (s : Schema ρ) (given : List (String × Json)) : Decoded ρ :=
  match s.putFields given s.blank with
  | .error e => .error e
  | .ok r =>
    match s.missing? given with
    | some name => .error (.missingField name)
    | none => .ok r

/-- Decodes the items of an array, of which there are `count`, into the given fields. -/
def putItems (s : Schema ρ) (count : Nat) : List (Field ρ) → List Json → ρ → Decoded ρ
  | [], [], r => .ok r
  | [], _ :: _, _ => .error (.tooManyItems count)
  | _ :: _, [], r =>
    if s.mayEndEarly then .ok r else .error (.tooFewItems count s.name s.fields.length)
  | f :: fields, value :: rest, r =>
    match f.put value r with
    | .ok r => s.putItems count fields rest r
    | .error e => .error e

/-- Decodes a record. -/
def read (s : Schema ρ) : Json → Decoded ρ
  | .obj given => s.readObject given
  | .arr items => s.putItems items.length s.fields items s.blank
  | j => .error (.wrongKind j (.record s.name))

/-- The fields of a record in the order of declaration. -/
def declared (s : Schema ρ) (r : ρ) : List (String × Json) :=
  s.fields.map fun f => (f.name, f.get r)

/-- The object of a record. -/
def write (s : Schema ρ) (r : ρ) : Json :=
  object (s.declared r)

end Schema

end LintPool.Json
