import LintPool.Toml.Scalar

set_option autoImplicit false

/-!
# Tables in TOML

A table may come about in four ways: by a header of its own, by standing on the way of another
header, by a dotted key, or in place as a value. Which of these decides whether it may still be
added to, and by what.

## Main definitions

* `LintPool.Toml.Value` — a value.
* `LintPool.Toml.within` — a change inside the table that a path leads to.
* `LintPool.Toml.addValue` — a key given a value.
* `LintPool.Toml.openTable`, `LintPool.Toml.closeTable` — a header, and the end of what it heads.
-/

namespace LintPool.Toml

/-- A key. -/
abbrev Key := List Char

/-- How a table came about. -/
inductive Origin where
  /-- By a header of its own. -/
  | header
  /-- On the way of another header. -/
  | implied
  /-- By a dotted key. -/
  | dotted
  /-- In place as a value. -/
  | inPlace
  deriving Repr, DecidableEq

/-- A value. -/
inductive Value where
  | text (s : String)
  | scalar (s : Scalar)
  | list (items : List Value)
  | table (origin : Origin) (entries : List (Key × Value))
  /-- The tables under a header in double brackets, the latest first. -/
  | tables (latestFirst : List (List (Key × Value)))
  deriving Repr, Inhabited

/-- The keys of a table and their values. -/
abbrev Entries := List (Key × Value)

/-- The value of a key. -/
def get? (key : Key) (entries : Entries) : Option Value :=
  (entries.find? (·.1 = key)).map (·.2)

/-- The entries with the value of a key set. -/
def set (key : Key) (v : Value) (entries : Entries) : Entries :=
  entries.filter (·.1 ≠ key) ++ [(key, v)]

/-- Makes a change inside the table that a path leads to from a table; tables that are missing on
the way are made. A dotted key does not reach into a table with a header of its own, and nothing
reaches into a table that was given in place. -/
def within (byDots : Bool) (change : Origin → Entries → Option Entries) (origin : Origin) :
    List Key → Entries → Option Entries
  | [], entries => change origin entries
  | key :: path, entries =>
    match get? key entries with
    | none =>
      let made := if byDots then Origin.dotted else .implied
      (within byDots change made path []).map fun es => set key (.table made es) entries
    | some (.table o es) =>
      if o = .inPlace || (byDots && o = .header) then none
      else (within byDots change o path es).map fun es => set key (.table o es) entries
    | some (.tables (es :: older)) =>
      (within byDots change .header path es).map fun es => set key (.tables (es :: older)) entries
    | some _ => none

/-- Gives a key, after the keys of a path, a value. A plain key may not add to a table that dotted
keys made, nor a dotted key to one that they did not make. -/
def addValue (path : List Key) (key : Key) (v : Value) (entries : Entries) : Option Entries :=
  within true
    (fun origin es =>
      if decide (origin = .dotted) == path.isEmpty || (get? key es).isSome then none
      else some (set key v es))
    .header path entries

/-- A header: the path to its table, the key of the table, and whether it is in double brackets. -/
structure Header where
  /-- The path. -/
  path : List Key
  /-- The key. -/
  key : Key
  /-- Whether it adds a table to a list of tables. -/
  repeated : Bool
  deriving Repr, DecidableEq

/-- A document as far as it is read: the finished tables, and the one being filled. -/
structure Document where
  /-- The table of everything, without the one being filled. -/
  root : Entries
  /-- The header of the table being filled; nothing before the first header. -/
  header : Option Header
  /-- The table being filled. -/
  filling : Entries
  deriving Repr

/-- Puts the table being filled in its place. -/
def closeTable (d : Document) : Option Entries :=
  match d.header with
  | none => some d.filling
  | some h =>
    within false
      (fun _ es => match get? h.key es, h.repeated with
        | none, true => some (set h.key (.tables [d.filling]) es)
        | some (.tables older), true => some (set h.key (.tables (d.filling :: older)) es)
        | none, false => some (set h.key (.table .header d.filling) es)
        | _, _ => none)
      .header h.path d.root

/-- What is already in the table of a header: something only if the table stood on the way of an
earlier header. -/
def standing (h : Header) : List Key → Entries → Entries
  | [], entries => match get? h.key entries with
    | some (.table .implied es) => es
    | _ => []
  | key :: path, entries => match get? key entries with
    | some (.table _ es) => standing h path es
    | some (.tables (es :: _)) => standing h path es
    | _ => []

/-- Begins the table of a header. -/
def openTable (h : Header) (d : Document) : Option Document :=
  (closeTable d).bind fun root =>
    if h.repeated then some ⟨root, some h, []⟩
    else
      let root' := within false
        (fun _ es => match get? h.key es with
          | none => some es
          | some (.table .implied _) => some (es.filter (·.1 ≠ h.key))
          | some _ => none)
        .header h.path root
      root'.map fun r => ⟨r, some h, standing h h.path root⟩

end LintPool.Toml
