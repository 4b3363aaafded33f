import LintPool.Json.Basic
import LintPool.Text.Hex

set_option autoImplicit false

/-!
# Writing JSON

The compact form has no blanks; the indented form puts each item and field on a line of its own,
two more spaces in for each level. Fields are written in the order of the list.

## Main definitions

* `LintPool.Json.numberFormat` — how floating point numbers are written.
* `LintPool.Json.quote` — a text between quotes.
* `LintPool.Json.render` — the compact form.
* `LintPool.Json.renderIndented` — the indented form.
-/

namespace LintPool.Json

/-- Floating point numbers from 10⁻⁵ up to but not including 10¹⁶ are written without an
exponent. -/
def numberFormat : NumberFormat := .between (-5) 15

/-- How one character of a text is written: the quote, the backslash and the controls below U+0020
are escaped, all else stands for itself. -/
def escape (c : Char) : List Char :=
  if c = '"' then ['\\', '"']
  else if c = '\\' then ['\\', '\\']
  else if c = '\x08' then ['\\', 'b']
  else if c = '\t' then ['\\', 't']
  else if c = '\n' then ['\\', 'n']
  else if c = '\x0c' then ['\\', 'f']
  else if c = '\r' then ['\\', 'r']
  else if c.toNat < 0x20 then
    ['\\', 'u', '0', '0', Text.hexDigit (c.toNat / 16), Text.hexDigit (c.toNat % 16)]
  else [c]

/-- A text between quotes. -/
def quote (s : String) : List Char :=
  '"' :: (s.toList.flatMap escape ++ ['"'])

/-- The digits of an integer, after its sign. -/
def integer (i : Int) : List Char :=
  if i < 0 then '-' :: Nat.toDigits 10 i.natAbs else Nat.toDigits 10 i.natAbs

mutual

/-- The compact form of a value, before what follows it. -/
def renderOnto : Json → List Char → List Char
  | .null, rest => 'n' :: 'u' :: 'l' :: 'l' :: rest
  | .bool true, rest => 't' :: 'r' :: 'u' :: 'e' :: rest
  | .bool false, rest => 'f' :: 'a' :: 'l' :: 's' :: 'e' :: rest
  | .int i, rest => integer i ++ rest
  | .float x, rest =>
    if x.isFinite then (x.render numberFormat).toList ++ rest
    else 'n' :: 'u' :: 'l' :: 'l' :: rest
  | .str s, rest => quote s ++ rest
  | .arr [], rest => '[' :: ']' :: rest
  | .arr (v :: vs), rest => '[' :: renderOnto v (renderItems vs (']' :: rest))
  | .obj [], rest => '\x7b' :: '\x7d' :: rest
  | .obj ((k, v) :: fs), rest =>
    '\x7b' :: (quote k ++ ':' :: renderOnto v (renderFields fs ('\x7d' :: rest)))

/-- The items after the first, each after a comma. -/
def renderItems : List Json → List Char → List Char
  | [], rest => rest
  | v :: vs, rest => ',' :: renderOnto v (renderItems vs rest)

/-- The fields after the first, each after a comma. -/
def renderFields : List (String × Json) → List Char → List Char
  | [], rest => rest
  | (k, v) :: fs, rest => ',' :: (quote k ++ ':' :: renderOnto v (renderFields fs rest))

end

/-- The compact form of a value. -/
def render (j : Json) : String :=
  String.ofList (renderOnto j [])

/-- A new line, two spaces in for each level. -/
def newline (level : Nat) : List Char :=
  '\n' :: List.replicate (2 * level) ' '

mutual

/-- The indented form of a value at a level, before what follows it. -/
def indentOnto (level : Nat) : Json → List Char → List Char
  | .arr (v :: vs), rest =>
    '[' :: (newline (level + 1) ++
      indentOnto (level + 1) v (indentItems (level + 1) vs (newline level ++ ']' :: rest)))
  | .obj ((k, v) :: fs), rest =>
    '\x7b' :: (newline (level + 1) ++ (quote k ++ ':' :: ' ' ::
      indentOnto (level + 1) v (indentFields (level + 1) fs (newline level ++ '\x7d' :: rest))))
  | j, rest => renderOnto j rest

/-- The items after the first, each after a comma on a line of its own. -/
def indentItems (level : Nat) : List Json → List Char → List Char
  | [], rest => rest
  | v :: vs, rest => ',' :: (newline level ++ indentOnto level v (indentItems level vs rest))

/-- The fields after the first, each after a comma on a line of its own. -/
def indentFields (level : Nat) : List (String × Json) → List Char → List Char
  | [], rest => rest
  | (k, v) :: fs, rest =>
    ',' :: (newline level ++ (quote k ++ ':' :: ' ' ::
      indentOnto level v (indentFields level fs rest)))

end

/-- The indented form of a value. -/
def renderIndented (j : Json) : String :=
  String.ofList (indentOnto 0 j [])

end LintPool.Json
