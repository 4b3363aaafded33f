import LintPool.Toml.Table
import LintPool.Toml.Text

set_option autoImplicit false

/-!
# Reading TOML

A document is lines; each is blank, or gives a key a value, or is the header of a table. Lists and
tables given in place may span lines and end in a comma.

## Main definitions

* `LintPool.Toml.readKey` — a key, plain or dotted.
* `LintPool.Toml.readValue` — a value.
* `LintPool.Toml.readDocument` — the table that a whole document gives.
-/

namespace LintPool.Toml

/-- The input without the blanks at its front. -/
def skipSpace (input : List Char) : List Char := input.dropWhile isSpace

/-- The input after a comment at its front, if there is one; its line break stays. -/
def skipComment : List Char → Option (List Char)
  | '#' :: rest =>
    match rest.dropWhile isPlain with
    | [] => some []
    | '\n' :: more => some ('\n' :: more)
    | '\r' :: '\n' :: more => some ('\r' :: '\n' :: more)
    | _ => none
  | input => some input

/-- The input after what may follow the last item of a line. -/
def endLine (input : List Char) : Option (List Char) :=
  match skipComment (skipSpace input) with
  | some [] => some []
  | some ('\n' :: rest) => some rest
  | some ('\r' :: '\n' :: rest) => some rest
  | _ => none

/-- The input without blanks, comments and line breaks at its front. -/
def skipLines : Nat → List Char → Option (List Char)
  | 0, _ => none
  | fuel + 1, input =>
    match skipSpace input with
    | '#' :: rest => (skipComment ('#' :: rest)).bind (skipLines fuel)
    | '\n' :: rest => skipLines fuel rest
    | '\r' :: '\n' :: rest => skipLines fuel rest
    | other => some other

/-! ## Keys -/

/-- The characters of a key without quotes. -/
def isBare (c : Char) : Bool :=
  c.isAlphanum || c = '_' || c = '-'

/-- Reads one part of a key. -/
def readKeyPart : List Char → Taken Key
  | '"' :: rest => readBasic rest
  | '\'' :: rest => readLiteral rest
  | input =>
    match input.takeWhile isBare with
    | [] => none
    | part => some (part, input.dropWhile isBare)

/-- Reads the parts of a key with points between them. -/
def readKeyParts : Nat → List Char → Taken (List Key)
  | 0, _ => none
  | fuel + 1, input =>
    match readKeyPart (skipSpace input) with
    | none => none
    | some (part, rest) =>
      match skipSpace rest with
      | '.' :: more => (readKeyParts fuel more).map fun r => (part :: r.1, r.2)
      | other => some ([part], other)

/-- Reads a key: the path before its last part, and the last part. -/
def readKey (input : List Char) : Taken (List Key × Key) :=
  match readKeyParts (input.length + 1) input with
  | some (parts, rest) => match parts.reverse with
    | last :: before => some ((before.reverse, last), rest)
    | [] => none
  | none => none

/-! ## Values -/

/-- The most lists and tables in place that may be open at once. -/
def maxDepth : Nat := 80

mutual

/-- Reads a value. -/
def readValue (fuel depth : Nat) (input : List Char) : Taken Value :=
  match fuel with
  | 0 => none
  | fuel + 1 =>
    match input with
    | [] => none
    | '"' :: rest => (readText ('"' :: rest)).map fun r => (.text (String.ofList r.1), r.2)
    | '\'' :: rest => (readText ('\'' :: rest)).map fun r => (.text (String.ofList r.1), r.2)
    | '[' :: rest => if depth = 0 then none else readItems fuel (depth - 1) [] rest
    | '\x7b' :: rest => if depth = 0 then none else readFields fuel (depth - 1) [] rest
    | input =>
      let (run, rest) := takeRun input
      (scalar? run).map fun s => (.scalar s, rest)

/-- Reads the items of a list up to its end; `done` holds those before them, backwards. -/
def readItems (fuel depth : Nat) (done : List Value) (input : List Char) : Taken Value :=
  match fuel with
  | 0 => none
  | fuel + 1 =>
    match skipLines (input.length + 1) input with
    | none => none
    | some (']' :: rest) => some (.list done.reverse, rest)
    | some input =>
      match readValue fuel depth input with
      | none => none
      | some (v, rest) =>
        match skipLines (rest.length + 1) rest with
        | some (',' :: more) => readItems fuel depth (v :: done) more
        | some (']' :: more) => some (.list (v :: done).reverse, more)
        | _ => none

/-- Reads the fields of a table in place up to its end, added to those before them. -/
def readFields (fuel depth : Nat) (done : Entries) (input : List Char) : Taken Value :=
  match fuel with
  | 0 => none
  | fuel + 1 =>
    match skipLines (input.length + 1) input with
    | none => none
    | some ('\x7d' :: rest) => some (.table .inPlace done, rest)
    | some input =>
      match readKey input with
      | some ((path, key), '=' :: rest) =>
        match readValue fuel depth (skipSpace rest) with
        | none => none
        | some (v, rest) =>
          match addValue path key v done with
          | none => none
          | some done =>
            match skipLines (rest.length + 1) rest with
            | some (',' :: more) => readFields fuel depth done more
            | some ('\x7d' :: more) => some (.table .inPlace done, more)
            | _ => none
      | _ => none

end

/-! ## Documents -/

/-- Reads a header, its brackets included. -/
def readHeader : List Char → Taken Header
  | '[' :: '[' :: rest =>
    match readKey rest with
    | some ((path, key), ']' :: ']' :: more) => some (⟨path, key, true⟩, more)
    | _ => none
  | '[' :: rest =>
    match readKey rest with
    | some ((path, key), ']' :: more) => some (⟨path, key, false⟩, more)
    | _ => none
  | _ => none

/-- Reads a line that gives a key a value, up to the end of the value. -/
def readAssignment (input : List Char) : Taken (List Key × Key × Value) :=
  match readKey input with
  | some ((path, key), '=' :: rest) =>
    let value := skipSpace rest
    (readValue (2 * value.length + 2) maxDepth value).map fun r => ((path, key, r.1), r.2)
  | _ => none

/-- Reads the lines of a document. -/
def readLines : Nat → Document → List Char → Option Document
  | 0, _, _ => none
  | fuel + 1, d, input =>
    match skipLines (input.length + 1) input with
    | none => none
    | some [] => some d
    | some ('[' :: rest) =>
      match readHeader ('[' :: rest) with
      | none => none
      | some (h, rest) =>
        match openTable h d, endLine rest with
        | some d, some rest => readLines fuel d rest
        | _, _ => none
    | some input =>
      match readAssignment input with
      | none => none
      | some ((path, key, v), rest) =>
        match addValue path key v d.filling, endLine rest with
        | some filling, some rest => readLines fuel { d with filling } rest
        | _, _ => none

/-- The table that a whole document gives; a byte order mark in front does not count. -/
def readDocument (s : String) : Option Entries :=
  let input := match s.toList with
    | '\uFEFF' :: rest => rest
    | cs => cs
  (readLines (input.length + 1) ⟨[], none, []⟩ input).bind closeTable

end LintPool.Toml
