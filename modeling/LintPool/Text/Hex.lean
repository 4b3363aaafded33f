import LintPool.Text.Utf8

set_option autoImplicit false

/-!
# Bytes as pairs of hexadecimal digits

## Main definitions

* `LintPool.Text.hexOfBytes` — two lower-case digits a byte.
* `LintPool.Text.bytesOfHex?` — the bytes that pairs of digits stand for.
* `LintPool.Text.natOfHex?` — the number that a run of digits stands for.
-/

namespace LintPool.Text

/-- The value of a hexadecimal digit of either case. -/
def hexValue? (c : Char) : Option Nat :=
  if '0' ≤ c ∧ c ≤ '9' then some (c.toNat - '0'.toNat)
  else if 'a' ≤ c ∧ c ≤ 'f' then some (c.toNat - 'a'.toNat + 10)
  else if 'A' ≤ c ∧ c ≤ 'F' then some (c.toNat - 'A'.toNat + 10)
  else none

/-- The lower-case hexadecimal digit of a number below sixteen. -/
def hexDigit (n : Nat) : Char :=
  Nat.digitChar n

/-- Two lower-case digits a byte. -/
def hexOfBytes (bytes : Bytes) : String :=
  String.ofList (bytes.flatMap fun b => [hexDigit (b.toNat / 16), hexDigit (b.toNat % 16)])

/-- The bytes that pairs of digits stand for. -/
def bytesOfHexChars? : List Char → Option Bytes
  | [] => some []
  | [_] => none
  | a :: b :: rest => do
    let high ← hexValue? a
    let low ← hexValue? b
    let more ← bytesOfHexChars? rest
    return UInt8.ofNat (high * 16 + low) :: more

/-- The bytes that a text of pairs of digits stands for. -/
def bytesOfHex? (s : String) : Option Bytes :=
  bytesOfHexChars? s.toList

/-- The number that a text of digits stands for. -/
def natOfHex? (s : String) : Option Nat :=
  s.toList.foldlM (fun n c => (hexValue? c).map (n * 16 + ·)) 0

end LintPool.Text
