import LintPool.Text.Unprintable

set_option autoImplicit false

/-!
# Quoted text in messages

Messages quote a text between double quotes. The quote and the backslash are escaped with a
backslash, NUL, tab, line feed and carriage return by their usual letters, and every other
character without a shape of its own by its code point in hexadecimal.

## Main definitions

* `LintPool.Text.hexDigits` — a number in lower-case hexadecimal.
* `LintPool.Text.quote` — the quotation of a text.
-/

namespace LintPool.Text

/-- The digits of `n` in lower-case hexadecimal, without leading zeros. -/
def hexDigits (n : Nat) : String :=
  String.ofList (Nat.toDigits 16 n)

/-- How a quotation shows one character. -/
def quoteChar (c : Char) : String :=
  if c = '"' then "\\\""
  else if c = '\\' then "\\\\"
  else if c = '\x00' then "\\0"
  else if c = '\t' then "\\t"
  else if c = '\n' then "\\n"
  else if c = '\r' then "\\r"
  else if isUnprintable c then "\\u\x7b" ++ hexDigits c.toNat ++ "\x7d"
  else c.toString

/-- The quotation of a text. -/
def quote (s : String) : String :=
  "\"" ++ String.join (s.toList.map quoteChar) ++ "\""

end LintPool.Text
