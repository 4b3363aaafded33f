import LintPool.Program.Launch
import LintPool.Text.Blank

set_option autoImplicit false

/-!
# Searching the output of a command

A command is run and a matcher looks at the lines of its output one by one, until it finds what it
looks for. The first thing that decides the search counts: a line that is no text, a line that the
matcher rejects, or a line with which it is content. Only if there is none of these does it matter
how the command ended.

## Main definitions

* `LintPool.Matcher` — what looks at the lines.
* `LintPool.LineSearch` — how far a search is.
* `LintPool.LineSearch.push` — one more byte of the output.
* `LintPool.findLine` — the search over all that a command did.
* `LintPool.searchOutput` — the same while the command runs.
* `LintPool.CommandError` — why a search fails, and its wording.
-/

namespace LintPool

/-- What a matcher makes of a line. -/
inductive Verdict (α : Type) where
  /-- Nothing: the search goes on. -/
  | pass
  /-- The search has found what it looks for. -/
  | found (a : α)
  /-- The search cannot go on. -/
  | rejected (message : String)
  deriving Repr, DecidableEq

/-- What looks at the lines of an output; `σ` is what it remembers. -/
abbrev Matcher (σ α : Type) := String → σ → Verdict α × σ

/-- What decides a search before the command has ended. -/
inductive Decision (α : Type) where
  /-- A line with which the matcher is content. -/
  | found (a : α)
  /-- A line that the matcher rejects. -/
  | rejected (message : String)
  /-- A line that is no text. -/
  | unreadable (fault : Text.Fault)
  deriving Repr, DecidableEq

/-- How far a search is. -/
structure LineSearch (σ α : Type) where
  /-- The bytes of the line that is not over, backwards. -/
  line : Bytes
  /-- The first bytes that the command wrote to its errors. -/
  errors : Bytes
  /-- What the matcher remembers. -/
  memory : σ
  /-- What has decided the search. -/
  decision : Option (Decision α)
  deriving Repr

/-- The most bytes that are kept of the errors. -/
def maxErrorBytes : Nat := 4096

/-- A line without its line feed and without a carriage return before that. -/
def withoutEnd (line : List Char) : List Char :=
  match line.reverse with
  | '\n' :: '\r' :: rest => rest.reverse
  | '\n' :: rest => rest.reverse
  | _ => line

namespace LineSearch

variable {σ α : Type}

/-- The search before the command has written anything. -/
def start (memory : σ) : LineSearch σ α := ⟨[], [], memory, none⟩

/-- The matcher looks at a line, which has its line feed unless it is the last. -/
def look (m : Matcher σ α) (line : Bytes) (s : LineSearch σ α) : LineSearch σ α :=
  match Text.decode line with
  | .error fault => { s with line := [], decision := some (.unreadable fault) }
  | .ok text =>
    let (verdict, memory) := m (String.ofList (withoutEnd text.toList)) s.memory
    let decision := match verdict with
      | .pass => none
      | .found a => some (.found a)
      | .rejected message => some (.rejected message)
    { s with line := [], memory, decision }

/-- Takes one more byte of the output. -/
def push (m : Matcher σ α) (s : LineSearch σ α) (b : UInt8) : LineSearch σ α :=
  if s.decision.isSome then s
  else if b = 0x0A then s.look m (b :: s.line).reverse
  else { s with line := b :: s.line }

/-- Takes a piece of what the command writes. -/
def take (m : Matcher σ α) (s : LineSearch σ α) (piece : Sink × Bytes) : LineSearch σ α :=
  match piece.1 with
  | .output => piece.2.foldl (push m) s
  | .errors => { s with errors := s.errors ++ piece.2.take (maxErrorBytes - s.errors.length) }

/-- Takes the end of the output, where a last line without a line feed counts. -/
def close (m : Matcher σ α) (s : LineSearch σ α) : LineSearch σ α :=
  if s.decision.isSome || s.line.isEmpty then s else s.look m s.line.reverse

end LineSearch

/-- Why the search in the output of a command fails. -/
inductive CommandError where
  /-- The command cannot be started. -/
  | notStarted (command : String) (reason : LaunchError)
  /-- It ended with a code that is not zero; `errors` is what it wrote to its errors. -/
  | exitCode (command : String) (code : Nat) (errors : String)
  /-- A signal ended it. -/
  | killed (command : String) (signal : Nat)
  /-- Its output is no text. -/
  | unreadable (command : String) (fault : Text.Fault)
  /-- Its output makes no sense. -/
  | rejected (command : String) (message : String)
  deriving Repr, DecidableEq

/-- The wording of a command error. -/
def CommandError.message : CommandError → String
  | .notStarted command reason => s!"Failed to spawn \"{command}\": {reason.message}"
  | .exitCode command code errors =>
    s!"Command \"{command}\" exited with code {code}"
      ++ (if errors.isEmpty then "" else ": " ++ errors)
  | .killed command signal => s!"Command \"{command}\" exited with signal {signal}"
  | .unreadable command fault => s!"Failed to read output of \"{command}\": {fault.message}"
  | .rejected command message => s!"Failed to interpret output of \"{command}\": {message}"

/-- What a search comes to when no line has decided it. -/
def resultOfEnding {α : Type} (command : String) (errors : Bytes) :
    Ending → Except CommandError (Option α)
  | .exited 0 => .ok none
  | .exited code => .error (.exitCode command code (Text.trim (Text.decodeLossy errors)))
  | .killed signal => .error (.killed command signal)

/-- What a search comes to. -/
def LineSearch.result {σ α : Type} (command : String) (ending : Ending) (s : LineSearch σ α) :
    Except CommandError (Option α) :=
  match s.decision with
  | some (.found a) => .ok (some a)
  | some (.rejected message) => .error (.rejected command message)
  | some (.unreadable fault) => .error (.unreadable command fault)
  | none => resultOfEnding command s.errors ending

/-- Searches the output of a command that did what a transcript says; yields the result and what the
matcher remembers. -/
def findLine {σ α : Type} (m : Matcher σ α) (memory : σ) (command : String) (t : Transcript) :
    Except CommandError (Option α) × σ :=
  let s := (t.pieces.foldl (LineSearch.take m) (.start memory)).close m
  (s.result command t.ending, s.memory)

/-- A search goes on while a command runs, until the output decides the search, whereupon the
command is abandoned; how the search stands then, how the command ended unless it was abandoned, and
the files. -/
def LineSearch.watch {σ α : Type} (m : Matcher σ α) (s : LineSearch σ α) (files : FileTree) :
    Routine Ending → LineSearch σ α × Option Ending × FileTree
  | .done ending => (s.close m, some ending, files)
  | .receive _ next => watch m s files (next [])
  | .send sink bytes next =>
    let s := s.take m (sink, bytes)
    if s.decision.isSome then (s, none, files) else watch m s files (next ())
  | .close _ next => watch m s files (next ())
  | .pause _ next => watch m s files (next ())
  | .look next => watch m s files (next files)
  | .edit change next => watch m s (change files) (next ())
  | .work next => watch m s files (next ())

/-- The signal that ends a command which is abandoned. -/
def abandonment : Ending := .killed 9

/-- Runs a command and searches its output. -/
def searchOutput {σ α : Type} (m : Matcher σ α) (memory : σ) (l : Launch)
    (environment : Environment) (t : FileTree) :
    Except CommandError (Option α) × σ × FileTree :=
  match l.start environment t with
  | .error reason => (.error (.notStarted l.program reason), memory, t)
  | .ok routine =>
    let (s, ending, t) := (LineSearch.start memory).watch m t routine
    (s.result l.program (ending.getD abandonment), s.memory, t)

end LintPool
