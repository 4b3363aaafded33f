import LintPool.Shell.Token

set_option autoImplicit false

/-!
# Commands of a script

## Main definitions

* `LintPool.Shell.Command` — a command.
* `LintPool.Shell.nextLine` — the commands of the next line of a script, together with those of the
  lines that it needs.
-/

namespace LintPool.Shell

/-- What a redirection does to a descriptor. -/
inductive RedirectionKind where
  /-- Reads from a file. -/
  | read
  /-- Writes to a file, which is emptied. -/
  | write
  /-- Writes to the end of a file. -/
  | append
  /-- Goes where another descriptor goes, or nowhere if a dash is given for it. -/
  | copy
  /-- Reads from a document. -/
  | document
  deriving Repr, DecidableEq

/-- A redirection of a descriptor. -/
structure Redirection where
  /-- The descriptor. -/
  descriptor : Nat
  /-- What it does. -/
  kind : RedirectionKind
  /-- The file, the other descriptor or the document. -/
  target : Word

/-- A command. -/
inductive Command where
  /-- Variables that are set, and the words of a command, in a line. -/
  | simple (line : Nat) (settings : List (Letters × Word)) (words : List Word)
      (redirections : List Redirection)
  /-- Commands of which each reads what the one before it writes. -/
  | pipeline (stages : List Command)
  /-- A command that succeeds when the other fails. -/
  | negation (c : Command)
  /-- A command, and another if it succeeds. -/
  | conjunction (first second : Command)
  /-- A command, and another if it fails. -/
  | disjunction (first second : Command)
  /-- A command that nobody waits for. -/
  | background (c : Command)
  /-- Commands one after another. -/
  | group (body : List Command)
  /-- The same in a shell of their own. -/
  | subshell (body : List Command)
  /-- Commands that run if others succeed, and those that run if not. -/
  | branch (condition body otherwise : List Command)
  /-- Commands that run again and again while others succeed, or until they do. -/
  | loop (untilSuccess : Bool) (condition body : List Command)
  /-- Commands that run once for each word, or for each parameter. -/
  | each (name : Letters) (words : Option (List Word)) (body : List Command)
  /-- The commands after the first pattern that matches a word. -/
  | choice (subject : Word) (arms : List (List Word × List Command))
  /-- A new function. -/
  | function (name : Letters) (body : Command)
  /-- A command with redirections. -/
  | redirected (body : Command) (redirections : List Redirection)

instance : Inhabited Command := ⟨.group []⟩

/-- Reads off the front of some tokens. -/
abbrev Parse := StateT (List Token) (Except Fault)

namespace Parse

/-- The next token. -/
def peek : Parse (Option TokenKind) := do return ((← get).head?.map Token.kind)

/-- Goes past the next token. -/
def skip : Parse Unit := modify List.tail

/-- The text of a word that is one piece without quotes. -/
def plain? : Word → Option Letters
  | [.literal false cs] => some cs
  | _ => none

/-- The words with a meaning of their own where a command may begin. -/
def keywords : List String :=
  ["!", "\x7b", "\x7d", "case", "do", "done", "elif", "else", "esac", "fi", "for", "if", "in",
    "then", "until", "while"]

/-- How a token is called in a complaint. -/
def describe : Option TokenKind → String
  | none => "end of file"
  | some .newline => "newline"
  | some (.operator o) => s!"\"{o}\""
  | some (.word w) => match (plain? w).bind fun cs => keywords.find? fun k => k.toList = cs with
    | some k => s!"\"{k}\""
    | none => "word"
  | some _ => "word"

/-- Complains about the next token. -/
def complain {α : Type} (wanted : Option String) : Parse α := do
  match ← peek with
  | some (.fault f) => throw f
  | t => throw (.unexpected (describe t) (wanted.map fun w => s!"\"{w}\""))

/-- Goes past an operator, if it is the next token. -/
def operator (o : String) : Parse Bool := do
  match ← peek with
  | some (.operator p) => if p = o then skip; return true else return false
  | _ => return false

/-- Whether the next token is a certain unquoted word. -/
def atKeyword (word : String) : Parse Bool := do
  match ← peek with
  | some (.word w) => return plain? w = some word.toList
  | _ => return false

/-- Goes past a certain unquoted word, if it is the next token. -/
def keyword (word : String) : Parse Bool := do
  if ← atKeyword word then skip; return true else return false

/-- Goes past a certain unquoted word, which must be the next token. -/
def require (word : String) : Parse Unit := do
  if ← keyword word then return else complain (some word)

/-- Goes past ends of lines. -/
def newlines : Parse Unit := modify fun ts => ts.dropWhile fun t => match t.kind with
  | .newline => true
  | _ => false

/-- The words that end a list of commands. -/
def closers : List String := ["then", "else", "elif", "fi", "do", "done", "esac", "\x7d"]

/-- Whether a list of commands ends at the next token. -/
def atClose : Parse Bool := do
  match ← peek with
  | none => return true
  | some (.operator o) => return o = ")" || o = ";;"
  | some (.word w) => match plain? w with
    | some cs => return closers.any fun k => k.toList = cs
    | none => return false
  | _ => return false

/-- The kind of a redirection operator, and the descriptor that it is for if none is given. -/
def redirectionKind? : String → Option (RedirectionKind × Nat)
  | "<" => some (.read, 0)
  | "<>" => some (.read, 0)
  | ">" => some (.write, 1)
  | ">|" => some (.write, 1)
  | ">>" => some (.append, 1)
  | "<&" => some (.copy, 0)
  | ">&" => some (.copy, 1)
  | "<<" => some (.document, 0)
  | "<<-" => some (.document, 0)
  | _ => none

/-- Reads a word, which must be the next token. -/
def word : Parse Word := do
  match ← peek with
  | some (.word w) => skip; return w
  | _ => complain none

/-- Reads what a redirection leads to, which must be the next token. -/
def redirectionTarget : Parse Word := do
  match ← peek with
  | some (.document w) => skip; return w
  | _ => word

/-- Reads a redirection, if one is next. -/
def redirection? : Parse (Option Redirection) := do
  let before ← get
  let given ← match ← peek with
    | some (.descriptor n) => skip; pure (some n)
    | _ => pure none
  match ← peek with
  | some (.operator o) =>
    match redirectionKind? o with
    | some (kind, usual) =>
      skip
      return some ⟨given.getD usual, kind, ← redirectionTarget⟩
    | none => set before; return none
  | _ => set before; return none

/-- Reads redirections as long as there are any, at most `fuel`. -/
def redirections : Nat → Parse (List Redirection)
  | 0 => return []
  | fuel + 1 => do
    match ← redirection? with
    | some r => return r :: (← redirections fuel)
    | none => return []

/-- A word that sets a variable: its name and the value. -/
def setting? : Word → Option (Letters × Word)
  | .literal false cs :: rest =>
    let name := cs.takeWhile (· ≠ '=')
    match cs.dropWhile (· ≠ '=') with
    | _ :: value =>
      if isName name then
        some (name, if value.isEmpty then rest else .literal false value :: rest)
      else none
    | [] => none
  | _ => none

/-- What a simple command is made of; all lists are held backwards. -/
structure Pieces where
  /-- The variables that it sets. -/
  settings : List (Letters × Word)
  /-- Its words. -/
  words : List Word
  /-- Its redirections. -/
  redirections : List Redirection

/-- Reads a simple command, of at most `fuel` pieces. -/
def simple (line : Nat) : Nat → Pieces → Parse Command
  | 0, _ => complain none
  | fuel + 1, p => do
    match ← redirection? with
    | some r => simple line fuel { p with redirections := r :: p.redirections }
    | none =>
      match ← peek with
      | some (.word w) =>
        skip
        match setting? w with
        | some s =>
          if p.words.isEmpty then simple line fuel { p with settings := s :: p.settings }
          else simple line fuel { p with words := w :: p.words }
        | none => simple line fuel { p with words := w :: p.words }
      | some (.fault f) => throw f
      | _ =>
        return .simple line p.settings.reverse p.words.reverse p.redirections.reverse

/-- Reads the name of a function, if a definition of one begins here. -/
def functionName? : Parse (Option Letters) := do
  match ← get with
  | ⟨_, .word w⟩ :: ⟨_, .operator "("⟩ :: rest =>
    let isKeyword := (plain? w).any fun cs => keywords.any (·.toList = cs)
    if isKeyword || (setting? w).isSome then return none
    set rest
    if !(← operator ")") then complain (some ")")
    match (plain? w).filter isName with
    | some name => return some name
    | none => throw .badFunctionName
  | _ => return none

/-- The readers of commands and of lists of commands. -/
structure Readers where
  /-- Reads a command with all that `&&` and `||` tie to it. -/
  command : Parse Command
  /-- Reads commands up to what ends a list. -/
  list : Parse (List Command)
  /-- Reads the rest of a branch, from the condition on. -/
  branch : Parse Command

/-- Reads patterns that are separated by bars, at most `fuel`. -/
def patterns : Nat → Parse (List Word)
  | 0 => complain none
  | fuel + 1 => do
    let w ← match ← peek with
      | some (.word w) => skip; pure w
      | _ => complain (some ")")
    if ← operator "|" then return w :: (← patterns fuel) else return [w]

/-- Reads the arms of a choice, at most `fuel`. -/
def arms (r : Readers) : Nat → Parse (List (List Word × List Command))
  | 0 => complain none
  | fuel + 1 => do
    newlines
    if ← keyword "esac" then return []
    let _ ← operator "("
    let ps ← patterns fuel
    if !(← operator ")") then complain (some ")")
    let body ← r.list
    if ← operator ";;" then return (ps, body) :: (← arms r fuel)
    newlines
    require "esac"
    return [(ps, body)]

/-- Reads words up to what ends them, at most `fuel`. -/
def wordsToEnd : Nat → Parse (List Word)
  | 0 => complain none
  | fuel + 1 => do
    match ← peek with
    | some (.word w) => skip; return w :: (← wordsToEnd fuel)
    | _ => return []

/-- Reads the loop over words that begins after its keyword. -/
def eachWord (r : Readers) (fuel : Nat) : Parse Command := do
  let name ← match ← peek with
    | some (.word w) => match (plain? w).filter isName with
      | some name => skip; pure name
      | none => throw .badLoopVariable
    | some (.fault f) => throw f
    | _ => throw .badLoopVariable
  newlines
  let words ← if ← keyword "in" then
      let ws ← wordsToEnd fuel
      match ← peek with
      | some .newline => skip
      | _ => if !(← operator ";") then complain none
      pure (some ws)
    else
      let _ ← operator ";"
      pure none
  newlines
  require "do"
  let body ← r.list
  require "done"
  return .each name words body

/-- Reads the choice that begins after its keyword. -/
def choose (r : Readers) (fuel : Nat) : Parse Command := do
  let subject ← word
  newlines
  require "in"
  return .choice subject (← arms r fuel)

/-- Reads a loop after its keyword. -/
def loop (r : Readers) (untilSuccess : Bool) : Parse Command := do
  let condition ← r.list
  require "do"
  let body ← r.list
  require "done"
  return .loop untilSuccess condition body

/-- Reads a compound command, if one begins here. -/
def compound? (r : Readers) (fuel : Nat) : Parse (Option Command) := do
  if ← keyword "\x7b" then
    let body ← r.list
    require "\x7d"
    return some (.group body)
  if ← operator "(" then
    let body ← r.list
    if !(← operator ")") then complain (some ")")
    return some (.subshell body)
  if ← keyword "if" then return some (← r.branch)
  if ← keyword "while" then return some (← loop r false)
  if ← keyword "until" then return some (← loop r true)
  if ← keyword "for" then return some (← eachWord r fuel)
  if ← keyword "case" then return some (← choose r fuel)
  return none

/-- Reads a compound command with its redirections, if one begins here. -/
def redirectedCompound? (r : Readers) (fuel : Nat) : Parse (Option Command) := do
  match ← compound? r fuel with
  | none => return none
  | some c =>
    match ← redirections fuel with
    | [] => return some c
    | rs => return some (.redirected c rs)

/-- Reads one command, be it compound, a function or simple. -/
def single (r : Readers) (fuel : Nat) : Parse Command := do
  match ← functionName? with
  | some name =>
    newlines
    match ← redirectedCompound? r fuel with
    | some body => return .function name body
    | none => return .function name (← simple 1 fuel ⟨[], [], []⟩)
  | none =>
    match ← redirectedCompound? r fuel with
    | some c => return c
    | none =>
      if (← atClose) || (← atKeyword "!") then complain none
      match (← get).head? with
      | some ⟨line, .word _⟩ => simple line fuel ⟨[], [], []⟩
      | some ⟨line, .descriptor _⟩ => simple line fuel ⟨[], [], []⟩
      | some ⟨line, .operator o⟩ =>
        if (redirectionKind? o).isSome then simple line fuel ⟨[], [], []⟩ else complain none
      | _ => complain none

/-- Reads commands with bars between them, at most `fuel`. -/
def stages (r : Readers) : Nat → Parse (List Command)
  | 0 => complain none
  | fuel + 1 => do
    let c ← single r fuel
    if ← operator "|" then
      newlines
      return c :: (← stages r fuel)
    else return [c]

/-- Reads a pipeline, which an exclamation mark may negate. -/
def pipeline (r : Readers) (fuel : Nat) : Parse Command := do
  let negated ← keyword "!"
  let c := match ← stages r fuel with
    | [c] => c
    | cs => .pipeline cs
  return if negated then .negation c else c

/-- Reads what `&&` and `||` tie to a command, at most `fuel` times. -/
def tied (r : Readers) : Nat → Command → Parse Command
  | 0, _ => complain none
  | fuel + 1, c => do
    if ← operator "&&" then
      newlines
      tied r fuel (.conjunction c (← pipeline r fuel))
    else if ← operator "||" then
      newlines
      tied r fuel (.disjunction c (← pipeline r fuel))
    else return c

/-- A command with what separates it from the next one: nobody waits for it if that is `&`; and
whether there is a separator. -/
def separated (c : Command) : Parse (Command × Bool) := do
  if ← operator ";" then return (c, true)
  if ← operator "&" then return (.background c, true)
  return (c, false)

/-- Reads commands up to what ends a list, at most `fuel`. -/
def listFrom (r : Readers) : Nat → Parse (List Command)
  | 0 => complain none
  | fuel + 1 => do
    newlines
    if ← atClose then return []
    let (c, more) ← separated (← r.command)
    if more then return c :: (← listFrom r fuel)
    match ← peek with
    | some .newline => return c :: (← listFrom r fuel)
    | _ => if ← atClose then return [c] else complain none

/-- Reads the rest of a branch: its condition, its body and what follows. -/
def branchFrom (r : Readers) : Parse Command := do
  let condition ← r.list
  require "then"
  let body ← r.list
  if ← keyword "elif" then return .branch condition body [← r.branch]
  let otherwise ← if ← keyword "else" then r.list else pure []
  require "fi"
  return .branch condition body otherwise

/-- The readers for commands that are nested at most `depth` times. -/
def readers (fuel : Nat) : (depth : Nat) → Readers
  | 0 => ⟨complain none, complain none, complain none⟩
  | depth + 1 =>
    { command := fun ts =>
        let r := readers fuel depth
        (do tied r fuel (← pipeline r fuel) : Parse Command).run ts
      list := fun ts => (listFrom (readers fuel depth) fuel).run ts
      branch := fun ts => (branchFrom (readers fuel depth)).run ts }

/-- Reads the commands of a line, at most `fuel`. -/
def line (r : Readers) : Nat → Parse (List Command)
  | 0 => complain none
  | fuel + 1 => do
    let (c, more) ← separated (← r.command)
    if more then
      match ← peek with
      | none => return [c]
      | some .newline => return [c]
      | _ => return c :: (← line r fuel)
    else match ← peek with
      | none => return [c]
      | some .newline => return [c]
      | _ => complain none

end Parse

/-- The commands of the next line of a script, together with those of the lines that it needs, and
the tokens left; nothing at the end. -/
def nextLine (tokens : List Token) : Except Fault (Option (List Command × List Token)) :=
  let fuel := 2 * tokens.length + 16
  match tokens.dropWhile fun t => match t.kind with
    | .newline => true
    | _ => false with
  | [] => .ok none
  | t :: ts =>
    match (Parse.line (Parse.readers fuel fuel) fuel).run (t :: ts) with
    | .ok r => .ok (some r)
    | .error f => .error f

end LintPool.Shell
