import LintPool.Shell.State
import LintPool.Shell.Pattern

set_option autoImplicit false

/-!
# What small programs have in common

## Main definitions

* `LintPool.Shell.Surrounding` — what a small program is started with.
* `LintPool.Shell.Tool.contentOf` — the content of an operand.
* `LintPool.Shell.Tool.withOptions` — what the arguments of a program give.
-/

namespace LintPool.Shell

/-- What a small program is started with. -/
structure Surrounding where
  /-- The name that it was called by. -/
  name : Letters
  /-- Its arguments. -/
  arguments : List Letters
  /-- The variables that it gets. -/
  environment : List (Letters × Letters)
  /-- Its current folder. -/
  folder : Address

namespace Tool

/-- A program that has ended. -/
def exit (code : Nat) : Routine Ending := pure (.exited code)

/-- Writes text to the output. -/
def print (cs : Letters) : Routine Unit := .write .output (bytesOf cs)

/-- Complains and goes on. -/
def complain (s : Surrounding) (what : String) : Routine Unit :=
  .write .errors (bytesOf (s.name ++ lettersOfText s!": {what}\n"))

/-- Complains about the way in which the program was called. -/
def misused (s : Surrounding) (what : String) : Routine Ending := do
  complain s what
  Routine.write .errors
    (bytesOf ("Try '".toList ++ s.name ++ " --help' for more information.\n".toList))
  exit 1

/-- The files as the program sees them. -/
def files (s : Surrounding) : Routine FileTree := return (← Routine.files).seenAt s.folder

/-- Changes files. -/
def change (s : Surrounding) (f : FileTree → FileTree) : Routine Unit :=
  Routine.change fun t => t.changedAt s.folder f

/-- The wording of an access error without its number. -/
def wording (e : AccessError) : String :=
  String.ofList (e.message.toList.takeWhile (· ≠ '(')) |>.trimAsciiEnd.toString

/-- More rounds than any program here takes. -/
def rounds : Nat := 1000000000

/-- The most bytes that are read at once. -/
def block : Nat := 65536

/-- Passes on everything that is read, in at most `fuel` rounds. -/
def copy : (fuel : Nat) → Routine Unit
  | 0 => pure ()
  | fuel + 1 => .receive block fun bytes =>
    if bytes.isEmpty then .done () else .send .output bytes fun _ => copy fuel

/-- Reads everything, in at most `fuel` rounds; `done` holds the pieces that there are so far, the
latest first. -/
def readAll : (fuel : Nat) → (done : List Bytes) → Routine Bytes
  | 0, done => pure done.reverse.flatten
  | fuel + 1, done => .receive block fun bytes =>
    if bytes.isEmpty then .done done.reverse.flatten else readAll fuel (bytes :: done)

/-- The devices that give nothing, or no end of zeros, or what the program reads. -/
def isDevice (path : Letters) : Bool :=
  ["/dev/null", "/dev/zero", "/dev/stdin"].any (·.toList = path)

/-- The content of an operand, which is a file or a dash for the input. -/
def contentOf (s : Surrounding) (operand : Letters) : Routine (Except AccessError Bytes) := do
  if operand = ['-'] || operand = "/dev/stdin".toList then return .ok (← readAll rounds [])
  if operand = "/dev/null".toList then return .ok []
  return (← files s).read (State.path operand)

/-- The usual complaint about an operand that cannot be read. -/
def unreadable (operand : Letters) (e : AccessError) : String := s!"{textOf operand}: {wording e}"

/-- The complaint about an operand that cannot be opened. -/
def unopened (operand : Letters) (e : AccessError) : String :=
  match e with
  | .isFolder => s!"error reading '{textOf operand}': {wording e}"
  | e => s!"cannot open '{textOf operand}' for reading: {wording e}"

/-- Does something with the content of each operand; the code says whether all could be read. -/
def forEach (s : Surrounding) (complaint : Letters → AccessError → String)
    (act : Letters → Bytes → Routine Unit) (code : Nat) : List Letters → Routine Nat
  | [] => return code
  | o :: rest => do
    match ← contentOf s o with
    | .ok bytes =>
      act o bytes
      forEach s complaint act code rest
    | .error e =>
      complain s (complaint o e)
      forEach s complaint act 1 rest

/-- Reads all operands one after another, or the input if there is none; the code says whether all
could be read. -/
def readOperands (s : Surrounding) (complaint : Letters → AccessError → String) :
    List Letters → Routine (Bytes × Nat)
  | [] => return (← readAll rounds [], 0)
  | operands => go [] 0 operands
where
  /-- Reads the operands that are left. -/
  go (done : Bytes) (code : Nat) : List Letters → Routine (Bytes × Nat)
    | [] => return (done, code)
    | o :: rest => do
      match ← contentOf s o with
      | .ok bytes => go (done ++ bytes) code rest
      | .error e =>
        complain s (complaint o e)
        go done 1 rest

/-- The number that an argument gives. -/
def number? (cs : Letters) : Option Nat :=
  if cs.isEmpty || !cs.all Char.isDigit then none else some (numberOf cs)

/-- An integer as it is written. -/
def integer? (cs : Letters) : Option Int :=
  match cs with
  | '-' :: ds => (number? ds).map fun n => -n
  | '+' :: ds => (number? ds).map fun n => n
  | ds => (number? ds).map fun n => n

/-! ## Options -/

/-- What the arguments of a program give. -/
structure Given where
  /-- The options, each with its value, which is empty if it takes none. -/
  options : List (Char × Letters)
  /-- The operands. -/
  operands : List Letters

/-- Whether an option is given. -/
def Given.has (g : Given) (c : Char) : Bool := g.options.any (·.1 = c)

/-- The value of the last option of some letter. -/
def Given.value? (g : Given) (c : Char) : Option Letters :=
  (g.options.reverse.find? (·.1 = c)).map (·.2)

/-- The options that follow a dash, of which the last may take the next argument as its value;
whether it does. -/
def cluster (flags valued : Letters) (next : Option Letters) :
    Letters → Except String (List (Char × Letters) × Bool)
  | [] => .ok ([], false)
  | c :: more =>
    if flags.contains c then
      (cluster flags valued next more).map fun (os, took) => ((c, []) :: os, took)
    else if valued.contains c then
      match more, next with
      | _ :: _, _ => .ok ([(c, more)], false)
      | [], some v => .ok ([(c, v)], true)
      | [], none => .error s!"option requires an argument -- '{c}'"
    else .error s!"invalid option -- '{c}'"

/-- What some arguments give, of which the options may stand anywhere before two dashes; `flags` are
the options without a value and `valued` those with one. -/
def given (flags valued : Letters) : List Letters → Except String Given
  | [] => .ok ⟨[], []⟩
  | ['-', '-'] :: rest => .ok ⟨[], rest⟩
  | ('-' :: '-' :: name) :: _ => .error s!"unrecognized option '--{textOf name}'"
  | ('-' :: c :: more) :: rest =>
    match cluster flags valued rest.head? (c :: more) with
    | .error e => .error e
    | .ok (os, took) =>
      (given flags valued (if took then rest.tail else rest)).map fun g =>
        { g with options := os ++ g.options }
  | a :: rest => (given flags valued rest).map fun g => { g with operands := a :: g.operands }
termination_by args => args.length
decreasing_by all_goals grind

/-- Goes on with what the arguments give, or complains about them. -/
def withOptions (s : Surrounding) (flags valued : String) (act : Given → Routine Ending) :
    Routine Ending :=
  match given flags.toList valued.toList s.arguments with
  | .ok g => act g
  | .error what => misused s what

/-! ## Lines -/

/-- The lines of some bytes, each with its line feed. -/
def linesOf (line : Bytes) : Bytes → List Bytes
  | [] => if line.isEmpty then [] else [line.reverse]
  | b :: rest =>
    if b = 0x0A then (b :: line).reverse :: linesOf [] rest else linesOf (b :: line) rest

/-- The lines of some bytes as text, without line feeds. -/
def textLines (bytes : Bytes) : List Letters :=
  (linesOf [] bytes).map fun l => lettersOf (if l.getLast? = some 0x0A then l.dropLast else l)

/-- Writes a line. -/
def printLine (cs : Letters) : Routine Unit := print (cs ++ ['\n'])

end Tool

end LintPool.Shell
