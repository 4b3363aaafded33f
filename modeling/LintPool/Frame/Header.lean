import LintPool.Json.Reader
import LintPool.Text.Blank

set_option autoImplicit false

/-!
# The header of a frame

A frame is a header and a body. The header is lines up to the first blank one; the one that counts
gives the number of bytes of the body.

## Main definitions

* `LintPool.FrameFault` — what can be wrong with a frame, and its wording.
* `LintPool.parseLength` — the number that a length line gives.
* `LintPool.headerLine` — what one line of a header says.
* `LintPool.acceptLength` — whether a body of some length is taken.
-/

namespace LintPool

/-- The most bytes that a body may have. -/
def maxFrameBytes : Nat := 32 * 1024 * 1024

/-- The largest length that can be written down. -/
def maxLength : Nat := Nat.pow 2 64 - 1

/-- Why a text is no length. -/
inductive LengthFault where
  | empty
  | badDigit
  | tooLarge
  deriving Repr, DecidableEq

/-- The wording of a length fault. -/
def LengthFault.message : LengthFault → String
  | .empty => "cannot parse integer from empty string"
  | .badDigit => "invalid digit found in string"
  | .tooLarge => "number too large to fit in target type"

/-- What can be wrong with a frame. -/
inductive FrameFault where
  /-- A header line is not text. -/
  | headerNotText (fault : Text.Fault)
  /-- The stream ends before the blank line. -/
  | endedInHeader
  /-- A length line gives no length. -/
  | badLength (fault : LengthFault)
  /-- No line gives the length. -/
  | noLength
  /-- The body would be too long. -/
  | tooLong (length : Nat)
  /-- The stream ends inside the body. -/
  | endedInBody
  /-- The body is not JSON. -/
  | badBody (complaint : Json.Complaint)
  deriving Repr, DecidableEq

namespace FrameFault

/-- The wording of a fault, the general part first and then the particular one, if there is one. -/
def messages : FrameFault → List String
  | .headerNotText fault => ["reading frame header", fault.message]
  | .endedInHeader => ["stream ended inside a frame header"]
  | .badLength fault => ["invalid Content-Length", fault.message]
  | .noLength => ["frame without Content-Length"]
  | .tooLong length => [s!"frame of {length} bytes exceeds limit of {maxFrameBytes}"]
  | .endedInBody => ["reading frame body", "early eof"]
  | .badBody complaint => ["decoding frame body", complaint.message]

/-- The general part. -/
def summary (f : FrameFault) : String := f.messages.headD ""

/-- All parts. -/
def detail (f : FrameFault) : String := String.intercalate ": " f.messages

end FrameFault

/-- Adds the value of decimal digits to a number. -/
def parseDigits (n : Nat) : List Char → Except LengthFault Nat
  | [] => .ok n
  | c :: cs =>
    if c.isDigit then
      let n := n * 10 + (c.toNat - '0'.toNat)
      if maxLength < n then .error .tooLarge else parseDigits n cs
    else .error .badDigit

/-- The number that a text gives: decimal digits after an optional plus sign. -/
def parseLength : List Char → Except LengthFault Nat
  | [] => .error .empty
  | ['+'] => .error .badDigit
  | '+' :: cs => parseDigits 0 cs
  | cs => parseDigits 0 cs

/-- The name that the length line has. -/
def lengthName : List Char := "content-length".toList

/-- The text of the length in a header line, if the line is the length line. -/
def lengthText? (line : List Char) : Option (List Char) :=
  match line.dropWhile (· ≠ ':') with
  | [] => none
  | _ :: value =>
    let name := Text.trimChars (line.takeWhile (· ≠ ':'))
    if name.map Char.toLower = lengthName then some (Text.trimChars value) else none

/-- What one line of a header says. -/
inductive HeaderLine where
  /-- The line is blank: the header is over. -/
  | blank
  /-- The line gives a length. -/
  | length (n : Nat)
  /-- The line says something else. -/
  | other
  deriving Repr, DecidableEq

/-- What a line of a header says, its line feed included. -/
def headerLine (line : Bytes) : Except FrameFault HeaderLine :=
  match Text.decode line with
  | .error fault => .error (.headerNotText fault)
  | .ok s =>
    let cs := Text.trimChars s.toList
    if cs.isEmpty then .ok .blank
    else match lengthText? cs with
      | none => .ok .other
      | some value => match parseLength value with
        | .ok n => .ok (.length n)
        | .error fault => .error (.badLength fault)

/-- The length of the body that follows a header, if such a body is taken. -/
def acceptLength : Option Nat → Except FrameFault Nat
  | none => .error .noLength
  | some n => if maxFrameBytes < n then .error (.tooLong n) else .ok n

/-- The message that a body holds. -/
def decodeBody (body : Bytes) : Except FrameFault Json :=
  match Json.ofBytes body with
  | .ok v => .ok v
  | .error complaint => .error (.badBody complaint)

end LintPool
