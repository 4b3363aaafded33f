import LintPool.Text.Hex

set_option autoImplicit false

/-!
# Texts in TOML

A text stands between double quotes, where a backslash escapes, or between single quotes, where
nothing does. Three quotes open a text that may span lines: a line break right after them does not
count, and up to two quotes may stand right before the closing ones.

## Main definitions

* `LintPool.Toml.isPlain` — the characters that a text on one line may hold.
* `LintPool.Toml.readBasic`, `LintPool.Toml.readLiteral` — texts on one line.
* `LintPool.Toml.readLongBasic`, `LintPool.Toml.readLongLiteral` — texts that may span lines.
-/

namespace LintPool.Toml

/-- What a reader takes off the front of the input, and what is left. -/
abbrev Taken (α : Type) := Option (α × List Char)

/-- The blanks within a line. -/
def isSpace (c : Char) : Bool := c = ' ' || c = '\t'

/-- The characters that may stand for themselves: all but the controls other than the tab. -/
def isPlain (c : Char) : Bool :=
  c = '\t' || (' ' ≤ c && c ≠ '\x7f')

/-- The character of a code point in hexadecimal; a surrogate is none. -/
def charOfHex? (digits : List Char) : Option Char :=
  match digits.foldlM (fun n c => (Text.hexValue? c).map (n * 16 + ·)) 0 with
  | some n => if n.isValidChar then some (Char.ofNat n) else none
  | none => none

/-- The character that a letter after a backslash stands for. -/
def escaped? (c : Char) : Option Char :=
  match c with
  | 'b' => some '\x08'
  | 't' => some '\t'
  | 'n' => some '\n'
  | 'f' => some '\x0c'
  | 'r' => some '\r'
  | 'e' => some '\x1b'
  | '"' => some '"'
  | '\\' => some '\\'
  | _ => none

/-- Reads a text between double quotes, the first already taken; `done` is held backwards. -/
def readBasicFrom (done : List Char) : List Char → Taken (List Char)
  | [] => none
  | '"' :: rest => some (done.reverse, rest)
  | '\\' :: 'x' :: a :: b :: rest =>
    (charOfHex? [a, b]).bind fun c => readBasicFrom (c :: done) rest
  | '\\' :: 'u' :: a :: b :: c :: d :: rest =>
    (charOfHex? [a, b, c, d]).bind fun c => readBasicFrom (c :: done) rest
  | '\\' :: 'U' :: a :: b :: c :: d :: e :: f :: g :: h :: rest =>
    (charOfHex? [a, b, c, d, e, f, g, h]).bind fun c => readBasicFrom (c :: done) rest
  | '\\' :: c :: rest => (escaped? c).bind fun c => readBasicFrom (c :: done) rest
  | c :: rest => if isPlain c then readBasicFrom (c :: done) rest else none

/-- Reads a text between double quotes, the first already taken. -/
def readBasic (input : List Char) : Taken (List Char) := readBasicFrom [] input

/-- Reads a text between single quotes, the first already taken. -/
def readLiteralFrom (done : List Char) : List Char → Taken (List Char)
  | [] => none
  | '\'' :: rest => some (done.reverse, rest)
  | c :: rest => if isPlain c then readLiteralFrom (c :: done) rest else none

/-- Reads a text between single quotes, the first already taken. -/
def readLiteral (input : List Char) : Taken (List Char) := readLiteralFrom [] input

/-- Whether nothing but blanks comes before the end of the line. -/
def lineEnds (input : List Char) : Bool :=
  match input.dropWhile isSpace with
  | '\n' :: _ => true
  | '\r' :: '\n' :: _ => true
  | _ => false

/-- The input after a line break at its front. -/
def dropLineBreak : List Char → List Char
  | '\n' :: rest => rest
  | '\r' :: '\n' :: rest => rest
  | input => input

/-- Reads a text between triple double quotes; `skipping` says whether blanks and line breaks are
passed over because the line before ended with a backslash. -/
def readLongBasicFrom (skipping : Bool) (done : List Char) : List Char → Taken (List Char)
  | [] => none
  | '"' :: '"' :: '"' :: '"' :: '"' :: rest => some (('"' :: '"' :: done).reverse, rest)
  | '"' :: '"' :: '"' :: '"' :: rest => some (('"' :: done).reverse, rest)
  | '"' :: '"' :: '"' :: rest => some (done.reverse, rest)
  | '\\' :: 'x' :: a :: b :: rest =>
    (charOfHex? [a, b]).bind fun c => readLongBasicFrom false (c :: done) rest
  | '\\' :: 'u' :: a :: b :: c :: d :: rest =>
    (charOfHex? [a, b, c, d]).bind fun c => readLongBasicFrom false (c :: done) rest
  | '\\' :: 'U' :: a :: b :: c :: d :: e :: f :: g :: h :: rest =>
    (charOfHex? [a, b, c, d, e, f, g, h]).bind fun c => readLongBasicFrom false (c :: done) rest
  | '\\' :: '\n' :: rest => readLongBasicFrom true done rest
  | '\\' :: c :: rest =>
    if lineEnds (c :: rest) then readLongBasicFrom true done rest
    else (escaped? c).bind fun c => readLongBasicFrom false (c :: done) rest
  | '\r' :: '\n' :: rest =>
    readLongBasicFrom skipping (if skipping then done else '\n' :: '\r' :: done) rest
  | c :: rest =>
    if skipping && (isSpace c || c = '\n') then readLongBasicFrom true done rest
    else if isPlain c || c = '\n' then readLongBasicFrom false (c :: done) rest
    else none

/-- Reads a text between triple double quotes, the first three already taken. -/
def readLongBasic (input : List Char) : Taken (List Char) :=
  readLongBasicFrom false [] (dropLineBreak input)

/-- Reads a text between triple single quotes. -/
def readLongLiteralFrom (done : List Char) : List Char → Taken (List Char)
  | [] => none
  | '\'' :: '\'' :: '\'' :: '\'' :: '\'' :: rest => some (('\'' :: '\'' :: done).reverse, rest)
  | '\'' :: '\'' :: '\'' :: '\'' :: rest => some (('\'' :: done).reverse, rest)
  | '\'' :: '\'' :: '\'' :: rest => some (done.reverse, rest)
  | '\r' :: '\n' :: rest => readLongLiteralFrom ('\n' :: '\r' :: done) rest
  | c :: rest =>
    if isPlain c || c = '\n' then readLongLiteralFrom (c :: done) rest else none

/-- Reads a text between triple single quotes, the first three already taken. -/
def readLongLiteral (input : List Char) : Taken (List Char) :=
  readLongLiteralFrom [] (dropLineBreak input)

/-- Reads a text of any of the four forms. -/
def readText : List Char → Taken (List Char)
  | '"' :: '"' :: '"' :: rest => readLongBasic rest
  | '"' :: rest => readBasic rest
  | '\'' :: '\'' :: '\'' :: rest => readLongLiteral rest
  | '\'' :: rest => readLiteral rest
  | _ => none

end LintPool.Toml
