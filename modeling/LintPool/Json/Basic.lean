import LintPool.Binary64.Text

set_option autoImplicit false

/-!
# JSON values

Frames, records and results are JSON. Integers from -2⁶³ to 2⁶⁴ - 1 stay integers; every other
number is a floating point number. The fields of an object are kept in the order of their keys, so
that equal objects are equal lists.

## Main definitions

* `LintPool.Json` — a value.
* `LintPool.Json.setField` — a field list with one field set, order kept.
* `LintPool.Json.object` — the object with the given fields, a later field winning over an earlier
  one of the same key.
* `LintPool.Json.field?` — the value under a key.
-/

namespace LintPool

/-- A JSON value. -/
inductive Json where
  | null
  | bool (b : Bool)
  | int (i : Int)
  | float (x : Binary64)
  | str (s : String)
  | arr (items : List Json)
  | obj (fields : List (String × Json))
  deriving Repr, BEq, Inhabited

namespace Json

/-- The field list with `key` set to `value`, kept in the order of the keys. -/
def setField (key : String) (value : Json) : List (String × Json) → List (String × Json)
  | [] => [(key, value)]
  | (k, v) :: rest =>
    if key < k then (key, value) :: (k, v) :: rest
    else if key = k then (key, value) :: rest
    else (k, v) :: setField key value rest

/-- The field list of the given fields, a later one winning over an earlier one. -/
def sortFields (fields : List (String × Json)) : List (String × Json) :=
  fields.foldl (fun acc f => setField f.1 f.2 acc) []

/-- The object with the given fields. -/
def object (fields : List (String × Json)) : Json :=
  .obj (sortFields fields)

/-- The value under a key of a field list. -/
def lookup (key : String) (fields : List (String × Json)) : Option Json :=
  (fields.find? (·.1 = key)).map (·.2)

/-- The value under a key, if the value is an object that has it. -/
def field? (j : Json) (key : String) : Option Json :=
  match j with
  | .obj fields => lookup key fields
  | _ => none

/-- The text, if the value is one. -/
def text? : Json → Option String
  | .str s => some s
  | _ => none

/-- The whole number from 0 to 2⁶⁴ - 1, if the value is one. -/
def word64? : Json → Option Nat
  | .int i => if 0 ≤ i ∧ i < Nat.pow 2 64 then some i.toNat else none
  | _ => none

/-- Whether the value is null. -/
def isNull : Json → Bool
  | .null => true
  | _ => false

/-- A text, or null. -/
def ofText? : Option String → Json
  | some s => .str s
  | none => .null

/-- A natural number. -/
def ofNat (n : Nat) : Json := .int n

end Json

end LintPool
