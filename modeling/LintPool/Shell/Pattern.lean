import LintPool.Shell.Word

set_option autoImplicit false

/-!
# Patterns

In a pattern a star matches any text, a question mark any character and a bracket one of the
characters that it lists. A quoted character matches itself only.

## Main definitions

* `LintPool.Shell.matchesPattern` — whether a pattern matches a text.
* `LintPool.Shell.stripped` — a text without what a pattern matches at one end.
-/

namespace LintPool.Shell

/-- A character of a pattern, and whether it is quoted. -/
structure Mark where
  /-- The character. -/
  char : Char
  /-- Whether it is quoted. -/
  quoted : Bool
  deriving Repr, DecidableEq

/-- Whether a mark is a certain character with its special meaning. -/
def Mark.is (m : Mark) (c : Char) : Bool := m.char = c && !m.quoted

/-- Whether a pattern has characters with a special meaning. -/
def isPattern (ms : List Mark) : Bool := ms.any fun m => m.is '*' || m.is '?' || m.is '['

/-- The characters of a class by name. -/
def namedClass (name : String) (c : Char) : Bool :=
  match name with
  | "digit" => c.isDigit
  | "alpha" => c.isAlpha
  | "alnum" => c.isAlphanum
  | "upper" => c.isUpper
  | "lower" => c.isLower
  | "space" => c = ' ' || ('\t' ≤ c && c ≤ '\r')
  | "blank" => c = ' ' || c = '\t'
  | "punct" => '!' ≤ c && c ≤ '~' && !c.isAlphanum
  | "cntrl" => c < ' ' || c = '\x7f'
  | "print" => ' ' ≤ c && c ≤ '~'
  | "graph" => '!' ≤ c && c ≤ '~'
  | "xdigit" => c.isDigit || ('a' ≤ c && c ≤ 'f') || ('A' ≤ c && c ≤ 'F')
  | _ => false

/-- The name of a class that begins after a bracket and a colon, and what follows it. -/
def className? (ms : List Mark) : Option (String × List Mark) :=
  let name := ms.takeWhile fun m => m.char ≠ ':'
  match ms.drop name.length with
  | _ :: ⟨']', _⟩ :: rest => some (String.ofList (name.map Mark.char), rest)
  | _ => none

/-- Whether a character is among those that a bracket lists, and what follows the bracket, if it is
closed; `first` says whether no character has been listed yet. -/
def bracket? (c : Char) (found first : Bool) : (fuel : Nat) → List Mark → Option (Bool × List Mark)
  | 0, _ => none
  | _, [] => none
  | fuel + 1, m :: rest =>
    if m.is ']' && !first then some (found, rest)
    else match (if m.is '[' && rest.head?.any (·.is ':') then className? rest.tail else none) with
      | some (name, rest) => bracket? c (found || namedClass name c) false fuel rest
      | none =>
        match rest with
        | ⟨'-', false⟩ :: high :: rest =>
          if high.is ']' then bracket? c (found || m.char = c || c = '-') false fuel (high :: rest)
          else bracket? c (found || (m.char ≤ c && c ≤ high.char)) false fuel rest
        | _ => bracket? c (found || m.char = c) false fuel rest

/-- Whether a character matches a bracket, and what follows it, if it is closed. -/
def matchBracket? (c : Char) (ms : List Mark) : Option (Bool × List Mark) :=
  match ms with
  | m :: rest =>
    if m.is '!' || m.is '^' then
      (bracket? c false true (rest.length + 1) rest).map fun (b, r) => (!b, r)
    else bracket? c false true (ms.length + 1) ms
  | [] => none

/-- Whether a pattern matches a text, in at most `fuel` steps. -/
def matchMarks : (fuel : Nat) → List Mark → Letters → Bool
  | 0, _, _ => false
  | _, [], cs => cs.isEmpty
  | fuel + 1, m :: ms, cs =>
    if m.is '*' then
      matchMarks fuel ms cs || match cs with
        | [] => false
        | _ :: cs => matchMarks fuel (m :: ms) cs
    else match cs with
      | [] => false
      | c :: cs =>
        if m.is '?' then matchMarks fuel ms cs
        else match (if m.is '[' then matchBracket? c ms else none) with
          | some (yes, ms) => yes && matchMarks fuel ms cs
          | none => m.char = c && matchMarks fuel ms cs

/-- Whether a pattern matches a text. -/
def matchesPattern (ms : List Mark) (cs : Letters) : Bool :=
  matchMarks (ms.length + cs.length + 1) ms cs

/-- The numbers of characters at which a text may be cut, in the order in which to try. -/
def cuts (cs : Letters) (descending : Bool) : List Nat :=
  if descending then (List.range (cs.length + 1)).reverse else List.range (cs.length + 1)

/-- A text without what a pattern matches at one end, the longest or the shortest match. -/
def stripped (atEnd longest : Bool) (ms : List Mark) (cs : Letters) : Letters :=
  if atEnd then
    match (cuts cs !longest).find? fun n => matchesPattern ms (cs.drop n) with
    | some n => cs.take n
    | none => cs
  else
    match (cuts cs longest).find? fun n => matchesPattern ms (cs.take n) with
    | some n => cs.drop n
    | none => cs

end LintPool.Shell
