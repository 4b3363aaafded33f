import LintPool.Shell.Word

set_option autoImplicit false

/-!
# Tokens of a script

A script is words, operators and ends of lines, with blanks and comments between them. Below the
line of a redirection may stand a document that it reads.

## Main definitions

* `LintPool.Shell.Token` — a token and the line it stands in.
* `LintPool.Shell.tokensOf` — the tokens of a script.
-/

namespace LintPool.Shell

/-- What a token is. -/
inductive TokenKind where
  | word (w : Word)
  /-- The number of a descriptor before a redirection. -/
  | descriptor (n : Nat)
  | operator (text : String)
  /-- The text below that a redirection reads. -/
  | document (w : Word)
  | newline
  /-- A place that cannot be read. -/
  | fault (f : Fault)

/-- A token and the line it stands in. -/
structure Token where
  /-- The number of the line, from one. -/
  line : Nat
  /-- What it is. -/
  kind : TokenKind

/-- The operators, a longer one before those it begins with. -/
def operators : List String :=
  ["&&", "||", ";;", ">>", ">&", "<&", ">|", "<>", "<<-", "<<", ";", "&", "|", "<", ">", "(", ")"]

/-- An operator off the front of a text. -/
def operator? (cs : Letters) : Option (String × Letters) :=
  (operators.find? fun o => o.toList.isPrefixOf cs).map fun o => (o, cs.drop o.length)

/-- The value of decimal digits. -/
def numberOf (digits : Letters) : Nat :=
  digits.foldl (fun n c => n * 10 + (c.toNat - '0'.toNat)) 0

/-- The descriptor off the front of a text, if a redirection follows it. -/
def descriptor? (cs : Letters) : Option (Nat × Letters) :=
  let digits := cs.takeWhile Char.isDigit
  let rest := cs.dropWhile Char.isDigit
  if !digits.isEmpty && (rest.head? = some '<' || rest.head? = some '>') then
    some (numberOf digits, rest)
  else none

/-- The number of line ends that were read between two texts, of which the second ends the first. -/
def linesBetween (before after : Letters) : Nat :=
  (before.take (before.length - after.length)).count '\n'

/-! ## Documents -/

/-- The lines up to one that is a delimiter, what follows that, and how many lines these are;
`strips` says whether tabs at the beginning of lines are left out. -/
def takeDocument (strips : Bool) (delimiter : Letters) : (fuel : Nat) → Letters →
    Letters × Letters × Nat
  | 0, cs => ([], cs, 0)
  | _, [] => ([], [], 0)
  | fuel + 1, cs =>
    let line := cs.takeWhile (· ≠ '\n')
    let kept := if strips then line.dropWhile (· = '\t') else line
    match cs.drop line.length with
    | [] => (if kept = delimiter then [] else kept, [], 1)
    | _ :: rest =>
      if kept = delimiter then ([], rest, 1)
      else
        let (body, rest, n) := takeDocument strips delimiter fuel rest
        (kept ++ '\n' :: body, rest, n + 1)

/-- The delimiter that a word gives, and whether it is quoted. -/
def delimiterOf (w : Word) : Letters × Bool :=
  w.foldl (fun (cs, q) p => match p with
    | .literal quoted more => (cs ++ more, q || quoted)
    | _ => (cs, q)) ([], false)

/-- Reads the delimiter of a document, and the document, which begins below the line: the token, the
text without the document, and the number of its lines. -/
def readDocumentToken (strips : Bool) (cs : Letters) : TokenKind × Letters × Nat :=
  match readWord (cs.dropWhile isBlank) with
  | .error f => (.fault f, [], 0)
  | .ok (w, after) =>
    let (delimiter, quoted) := delimiterOf w
    let here := after.takeWhile (· ≠ '\n')
    let (body, rest, lines) :=
      takeDocument strips delimiter (after.length + 1) (after.drop (here.length + 1))
    let text := here ++ if here.length < after.length then '\n' :: rest else []
    if quoted then (.document [.literal true body], text, lines)
    else match readDocument body with
      | .ok w => (.document w, text, lines)
      | .error f => (.fault f, [], 0)

/-! ## Tokens -/

/-- Reads tokens, at most `fuel` of them; `done` is held backwards, and `below` counts the lines of
documents below the line. -/
def readTokens : (fuel : Nat) → (line below : Nat) → List Token → Letters → List Token
  | 0, _, _, done, _ => done.reverse
  | _, _, _, done, [] => done.reverse
  | fuel + 1, line, below, done, c :: rest =>
    if isBlank c then readTokens fuel line below done rest
    else if c = '\n' then readTokens fuel (line + 1 + below) 0 (⟨line, .newline⟩ :: done) rest
    else if c = '#' then readTokens fuel line below done (rest.dropWhile (· ≠ '\n'))
    else if c = '\\' && rest.head? = some '\n' then readTokens fuel (line + 1) below done rest.tail
    else match operator? (c :: rest), descriptor? (c :: rest) with
      | some (o, rest), _ =>
        let done := ⟨line, .operator o⟩ :: done
        if o = "<<" || o = "<<-" then
          let (kind, rest, lines) := readDocumentToken (o = "<<-") rest
          readTokens fuel line (below + lines) (⟨line, kind⟩ :: done) rest
        else readTokens fuel line below done rest
      | none, some (n, rest) => readTokens fuel line below (⟨line, .descriptor n⟩ :: done) rest
      | none, none =>
        match readWord (c :: rest) with
        | .error f => (⟨line, .fault f⟩ :: done).reverse
        | .ok (w, after) =>
          readTokens fuel (line + linesBetween (c :: rest) after) below (⟨line, .word w⟩ :: done)
            after

/-- The tokens of a script. -/
def tokensOf (script : Letters) : List Token := readTokens (script.length + 1) 1 0 [] script

end LintPool.Shell
