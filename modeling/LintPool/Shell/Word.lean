import LintPool.Text.Utf8

set_option autoImplicit false

/-!
# Words of a script

A script is read byte by byte; every byte stands as the character of its number, so no byte is
lost. A word is made of pieces: text as it is, values of variables, outputs of other scripts and
sums. What stands in quotes is neither divided nor a pattern.

## Main definitions

* `LintPool.Shell.Letters` — bytes as characters.
* `LintPool.Shell.Part`, `LintPool.Shell.Word` — words.
* `LintPool.Shell.readWord` — a word off the front of a text.
* `LintPool.Shell.readDocument` — a whole text as a word.
-/

namespace LintPool.Shell

/-- Bytes as the characters of their numbers. -/
abbrev Letters := List Char

/-- Whether some letters come no later than others in the order of their numbers. -/
def noLater (a b : Letters) : Bool := !decide (b < a)

/-- The characters of some bytes. -/
def lettersOf (bytes : Bytes) : Letters := bytes.map fun b => Char.ofNat b.toNat

/-- The bytes of some characters. -/
def bytesOf (cs : Letters) : Bytes := cs.map fun c => UInt8.ofNat c.toNat

/-- The characters of the bytes of a text. -/
def lettersOfText (s : String) : Letters := lettersOf (Text.encode s)

/-- The text that some characters spell, faulty pieces replaced. -/
def textOf (cs : Letters) : String := Text.decodeLossy (bytesOf cs)

mutual

/-- A piece of a word. -/
inductive Part where
  /-- Text as it is. -/
  | literal (quoted : Bool) (cs : Letters)
  /-- The value of a variable or parameter, put to some use. -/
  | value (quoted : Bool) (name : Letters) (use : Use)
  /-- What a script writes to its output. -/
  | output (quoted : Bool) (script : Letters)
  /-- The value of an expression. -/
  | sum (quoted : Bool) (expression : List Part)

/-- What a value is put to. -/
inductive Use where
  /-- The value as it is. -/
  | asIs
  /-- The number of its characters. -/
  | length
  /-- Another word if there is no value; `evenEmpty` says whether an empty one is none. -/
  | orElse (evenEmpty : Bool) (word : List Part)
  /-- The same, and the variable gets the other value. -/
  | orAssign (evenEmpty : Bool) (word : List Part)
  /-- The same, and the script ends with the word as its complaint. -/
  | orFail (evenEmpty : Bool) (word : List Part)
  /-- Another word if there is a value, else nothing. -/
  | ifPresent (evenEmpty : Bool) (word : List Part)
  /-- The value without what a pattern matches at one end. -/
  | strip (atEnd longest : Bool) (pattern : List Part)
  /-- Something that makes no sense. -/
  | senseless

end

/-- A word. -/
abbrev Word := List Part

/-- Whether a use takes a pattern, which quotes around the braces leave a pattern. -/
def Use.isStrip : Use → Bool
  | .strip .. => true
  | _ => false

/-- Why a script cannot be read. -/
inductive Fault where
  /-- A quotation does not end. -/
  | unterminated
  /-- A script between backquotes does not end. -/
  | unterminatedBackquote
  /-- An expansion does not end. -/
  | missingBrace
  /-- A sum does not end. -/
  | missingParentheses
  /-- The variable of a loop has no name. -/
  | badLoopVariable
  /-- A function has no name. -/
  | badFunctionName
  /-- Something stands where it cannot stand. -/
  | unexpected (what : String) (wanted : Option String)
  deriving Repr

/-- The wording of a fault. -/
def Fault.message : Fault → String
  | .unterminated => "Syntax error: Unterminated quoted string"
  | .unterminatedBackquote => "Syntax error: EOF in backquote substitution"
  | .missingBrace => "Syntax error: Missing '\x7d'"
  | .missingParentheses => "Syntax error: Missing '))'"
  | .badLoopVariable => "Syntax error: Bad for loop variable"
  | .badFunctionName => "Syntax error: Bad function name"
  | .unexpected what none => s!"Syntax error: {what} unexpected"
  | .unexpected what (some wanted) => s!"Syntax error: {what} unexpected (expecting {wanted})"

/-- The result of reading: a value and what is left, or a fault. -/
abbrev Reading (α : Type) := Except Fault (α × Letters)

/-! ## Characters -/

/-- Whether a character may begin a name. -/
def startsName (c : Char) : Bool := c.isAlpha || c = '_'

/-- Whether a character may stand in a name. -/
def inName (c : Char) : Bool := c.isAlphanum || c = '_'

/-- Whether a text is a name. -/
def isName : Letters → Bool
  | [] => false
  | c :: cs => startsName c && cs.all inName

/-- Whether a character stands for a parameter by itself. -/
def isSpecial (c : Char) : Bool := "@*#?-$!".toList.contains c

/-- Whether a character is a blank. -/
def isBlank (c : Char) : Bool := c = ' ' || c = '\t'

/-- Whether a character ends a word. -/
def endsWord (c : Char) : Bool := " \t\n;&|<>()".toList.contains c

/-! ## Scripts inside words -/

/-- What encloses a place in a script inside a word. -/
inductive Enclosure where
  | parentheses
  | quotes
  deriving DecidableEq

/-- The fault of a script inside a word that does not end. -/
def endedInScript : Fault := .unexpected "end of file" (some "\")\"")

/-- Reads up to the end of what the place is enclosed in; `taken` is held backwards. -/
def takeEnclosed (taken : Letters) : List Enclosure → Letters → Reading Letters
  | [], rest => .ok (taken.reverse, rest)
  | .parentheses :: _, [] => .error endedInScript
  | .quotes :: _, [] => .error .unterminated
  | outer, '\\' :: c :: rest => takeEnclosed (c :: '\\' :: taken) outer rest
  | .parentheses :: outer, c :: rest =>
    if c = ')' then
      if outer.isEmpty then .ok (taken.reverse, rest) else takeEnclosed (c :: taken) outer rest
    else if c = '(' then takeEnclosed (c :: taken) (.parentheses :: .parentheses :: outer) rest
    else if c = '"' then takeEnclosed (c :: taken) (.quotes :: .parentheses :: outer) rest
    else if c = '\'' then
      let inside := rest.takeWhile (· ≠ '\'')
      match h : rest.dropWhile (· ≠ '\'') with
      | [] => .error .unterminated
      | _ :: after =>
        have : after.length < rest.length + 1 := by
          have := (List.dropWhile_suffix (· ≠ '\'') (l := rest)).length_le
          rw [h] at this
          simp only [List.length_cons] at this
          omega
        takeEnclosed ('\'' :: inside.reverse ++ c :: taken) (.parentheses :: outer) after
    else takeEnclosed (c :: taken) (.parentheses :: outer) rest
  | .quotes :: outer, c :: rest =>
    if c = '"' then takeEnclosed (c :: taken) outer rest
    else if c = '$' && rest.head? = some '(' then
      takeEnclosed ('(' :: c :: taken) (.parentheses :: .quotes :: outer) rest.tail
    else takeEnclosed (c :: taken) (.quotes :: outer) rest
termination_by _ rest => rest.length
decreasing_by all_goals grind

/-- Reads up to a backquote, undoing what a backslash hides; `taken` is held backwards. -/
def takeBackquoted (taken : Letters) : Letters → Reading Letters
  | [] => .error .unterminatedBackquote
  | '\x60' :: rest => .ok (taken.reverse, rest)
  | '\\' :: c :: rest =>
    if c = '\x60' || c = '\\' || c = '$' then takeBackquoted (c :: taken) rest
    else takeBackquoted (c :: '\\' :: taken) rest
  | c :: rest => takeBackquoted (c :: taken) rest

/-- Reads an expression up to its two closing parentheses; `taken` is held backwards. -/
def takeExpression (depth : Nat) (taken : Letters) : Letters → Reading Letters
  | [] => .error .missingParentheses
  | ')' :: rest =>
    match depth, rest with
    | 0, ')' :: rest => .ok (taken.reverse, rest)
    | 0, _ => .error .missingParentheses
    | d + 1, _ => takeExpression d (')' :: taken) rest
  | '(' :: rest => takeExpression (depth + 1) ('(' :: taken) rest
  | c :: rest => takeExpression depth (c :: taken) rest

/-! ## Words -/

/-- A word with one more character; words under construction are held backwards. -/
def addChar (quoted : Bool) (c : Char) : Word → Word
  | .literal q cs :: parts =>
    if q = quoted then .literal q (c :: cs) :: parts
    else .literal quoted [c] :: .literal q cs :: parts
  | parts => .literal quoted [c] :: parts

/-- The word that was under construction. -/
def finishWord (parts : Word) : Word :=
  parts.reverse.map fun
    | .literal q cs => .literal q cs.reverse
    | p => p

/-- Where the pieces of a word stand. -/
inductive Surroundings where
  /-- In the open: a character that ends words ends the word. -/
  | bare
  /-- In quotes. -/
  | quotes
  /-- In a text that is a document of its own. -/
  | document
  /-- In braces; `quoted` says whether the braces stand in quotes. -/
  | braces (quoted : Bool)
  deriving DecidableEq

/-- Whether pieces with these surroundings count as quoted. -/
def Surroundings.quoted : Surroundings → Bool
  | .bare => false
  | .quotes => true
  | .document => true
  | .braces q => q

/-- The use that stands after a name in braces, and takes the word that follows. -/
def readUse : Letters → (Word → Use) × Letters
  | ':' :: '-' :: rest => (.orElse true, rest)
  | '-' :: rest => (.orElse false, rest)
  | ':' :: '=' :: rest => (.orAssign true, rest)
  | '=' :: rest => (.orAssign false, rest)
  | ':' :: '?' :: rest => (.orFail true, rest)
  | '?' :: rest => (.orFail false, rest)
  | ':' :: '+' :: rest => (.ifPresent true, rest)
  | '+' :: rest => (.ifPresent false, rest)
  | '#' :: '#' :: rest => (.strip false true, rest)
  | '#' :: rest => (.strip false false, rest)
  | '%' :: '%' :: rest => (.strip true true, rest)
  | '%' :: rest => (.strip true false, rest)
  | ':' :: '}' :: rest => (fun _ => .asIs, rest)
  | rest => (fun _ => .senseless, rest)

/-- Reads the name of a variable or parameter in braces. -/
def readBracedName : Letters → Letters × Letters
  | [] => ([], [])
  | c :: rest =>
    if isSpecial c then ([c], rest)
    else if c.isDigit then
      (c :: rest.takeWhile Char.isDigit, rest.dropWhile Char.isDigit)
    else ((c :: rest).takeWhile inName, (c :: rest).dropWhile inName)

/-- Whether a backslash hides a character. -/
def Surroundings.hides (around : Surroundings) (c : Char) : Bool :=
  match around with
  | .bare => true
  | .quotes => "$\x60\"\\\n".toList.contains c
  | .document => "$\x60\\\n".toList.contains c
  | .braces q => !q || "$\x60\"\\\n\x7d".toList.contains c

/-- Reads the pieces of a word, in at most `fuel` steps; `parts` is what there is so far. -/
def readParts (around : Surroundings) : (fuel : Nat) → Word → Letters → Reading Word
  | 0, _, _ => .error .unterminated
  | fuel + 1, parts, cs =>
    let q := around.quoted
    let onward := readParts around fuel
    match cs with
    | [] =>
      match around with
      | .bare => .ok (finishWord parts, [])
      | .document => .ok (finishWord parts, [])
      | .quotes => .error .unterminated
      | .braces q => .error (if q then .unterminated else .missingBrace)
    | '\\' :: c :: rest =>
      if !around.hides c then onward (addChar true '\\' parts) (c :: rest)
      else if c = '\n' then onward parts rest
      else onward (addChar true c parts) rest
    | '$' :: '(' :: '(' :: rest =>
      match takeExpression 0 [] rest with
      | .ok (inside, after) =>
        match readParts .quotes fuel [] (inside ++ ['"']) with
        | .ok (e, _) => onward (.sum q e :: parts) after
        | .error f => .error f
      | .error f => .error f
    | '$' :: '(' :: rest =>
      match takeEnclosed [] [.parentheses] rest with
      | .ok (inside, after) => onward (.output q inside :: parts) after
      | .error f => .error f
    | '$' :: '{' :: '#' :: '}' :: rest => onward (.value q ['#'] .asIs :: parts) rest
    | '$' :: '{' :: '#' :: rest =>
      match readBracedName rest with
      | (name, '}' :: after) => onward (.value q name .length :: parts) after
      | _ => .error .missingBrace
    | '$' :: '{' :: rest =>
      match readBracedName rest with
      | (name, after) =>
        if after.head? = some '}' then
          onward (.value q name (if name.isEmpty then .senseless else .asIs) :: parts) after.tail
        else
          let (use, after) := if name.isEmpty then (fun _ => .senseless, after) else readUse after
          match readParts (.braces (q && !(use []).isStrip)) fuel [] after with
          | .ok (word, after) => onward (.value q name (use word) :: parts) after
          | .error f => .error f
    | '$' :: c :: rest =>
      if startsName c then
        onward (.value q (c :: rest.takeWhile inName) .asIs :: parts) (rest.dropWhile inName)
      else if c.isDigit || isSpecial c then onward (.value q [c] .asIs :: parts) rest
      else onward (addChar q '$' parts) (c :: rest)
    | '\x60' :: rest =>
      match takeBackquoted [] rest with
      | .ok (inside, after) => onward (.output q inside :: parts) after
      | .error f => .error f
    | c :: rest =>
      match around with
      | .bare =>
        if endsWord c then .ok (finishWord parts, c :: rest) else quotedOr c rest parts fuel
      | .document => onward (addChar true c parts) rest
      | .quotes =>
        if c = '"' then .ok (finishWord parts, rest) else onward (addChar true c parts) rest
      | .braces _ =>
        if c = '}' then .ok (finishWord parts, rest) else quotedOr c rest parts fuel
where
  /-- Reads a quotation, or one character outside quotes. -/
  quotedOr (c : Char) (rest : Letters) (parts : Word) (fuel : Nat) : Reading Word :=
    if c = '\'' && !around.quoted then
      match rest.dropWhile (· ≠ '\'') with
      | [] => .error .unterminated
      | _ :: after =>
        let inside := rest.takeWhile (· ≠ '\'')
        readParts around fuel (.literal true inside.reverse :: parts) after
    else if c = '"' then
      match readParts .quotes fuel [] rest with
      | .ok (inside, after) =>
        let inside := if inside.isEmpty then [.literal true []] else inside
        let backwards := inside.reverse.map fun
          | .literal q cs => Part.literal q cs.reverse
          | p => p
        readParts around fuel (backwards ++ parts) after
      | .error f => .error f
    else readParts around fuel (addChar around.quoted c parts) rest

/-- Reads a word off the front of a text. -/
def readWord (cs : Letters) : Reading Word := readParts .bare (2 * cs.length + 2) [] cs

/-- The word that a document is, if the values in it count. -/
def readDocument (cs : Letters) : Except Fault Word :=
  (readParts .document (2 * cs.length + 2) [] cs).map (·.1)

end LintPool.Shell
