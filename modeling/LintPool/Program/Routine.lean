import LintPool.FileTree.Edit
import LintPool.Time

set_option autoImplicit false

/-!
# What a running program does

Seen from outside, a program reads bytes from its input, writes bytes to its output and its errors,
waits, looks at files and changes them, until it ends. A routine is the tree of all courses that
this can take: after each thing it does there is one way on for every answer it may get.

## Main definitions

* `LintPool.Routine` — the courses of a program that comes to a value.
* `LintPool.Routine.capture` — the same, with its output kept.
* `LintPool.Routine.readingFrom` — a program that reads what another writes.
* `LintPool.Ending` — how a program ends.
-/

namespace LintPool

/-- How a program ends. -/
inductive Ending where
  /-- By itself, with a code. -/
  | exited (code : Nat)
  /-- By a signal. -/
  | killed (signal : Nat)
  deriving Repr, DecidableEq, Inhabited

/-- Where a program writes to. -/
inductive Sink where
  | output
  | errors
  deriving Repr, DecidableEq, Inhabited

/-- The courses of a program that comes to a value. -/
inductive Routine (α : Type) where
  /-- It is over. -/
  | done (a : α)
  /-- It reads at least one byte and at most so many; none if its input is at an end. -/
  | receive (most : Nat) (next : Bytes → Routine α)
  /-- It writes bytes. -/
  | send (sink : Sink) (bytes : Bytes) (next : Unit → Routine α)
  /-- It will write there no more. -/
  | close (sink : Sink) (next : Unit → Routine α)
  /-- It sleeps. -/
  | pause (length : Span) (next : Unit → Routine α)
  /-- It looks at the files. -/
  | look (next : FileTree → Routine α)
  /-- It changes files. -/
  | edit (change : FileTree → FileTree) (next : Unit → Routine α)
  /-- It does something that nobody sees. -/
  | work (next : Unit → Routine α)

namespace Routine

variable {α β : Type}

instance [Inhabited α] : Inhabited (Routine α) := ⟨.done default⟩

/-- One program after another. -/
def andThen : Routine α → (α → Routine β) → Routine β
  | .done a, f => f a
  | .receive most next, f => .receive most fun bytes => (next bytes).andThen f
  | .send sink bytes next, f => .send sink bytes fun u => (next u).andThen f
  | .close sink next, f => .close sink fun u => (next u).andThen f
  | .pause length next, f => .pause length fun u => (next u).andThen f
  | .look next, f => .look fun t => (next t).andThen f
  | .edit change next, f => .edit change fun u => (next u).andThen f
  | .work next, f => .work fun u => (next u).andThen f

instance : Monad Routine where
  pure := .done
  bind := andThen

/-- The same program with its output kept instead of written; `kept` holds the pieces that there are
so far, the latest first. -/
def capture (kept : List Bytes) : Routine α → Routine (α × Bytes)
  | .done a => .done (a, kept.reverse.flatten)
  | .receive most next => .receive most fun bytes => (next bytes).capture kept
  | .send .output bytes next => .work fun u => (next u).capture (bytes :: kept)
  | .send .errors bytes next => .send .errors bytes fun u => (next u).capture kept
  | .close .output next => .work fun u => (next u).capture kept
  | .close .errors next => .close .errors fun u => (next u).capture kept
  | .pause length next => .pause length fun u => (next u).capture kept
  | .look next => .look fun t => (next t).capture kept
  | .edit change next => .edit change fun u => (next u).capture kept
  | .work next => .work fun u => (next u).capture kept

/-- Runs a program until it writes something to its output, or is over, or will write no more. -/
def untilOutput (found : Bytes → Routine α → Routine β) (ended : Unit → Routine β) :
    Routine α → Routine β
  | .done _ => ended ()
  | .receive most next => .receive most fun bytes => (next bytes).untilOutput found ended
  | .send .output bytes next =>
    if bytes.isEmpty then (next ()).untilOutput found ended else found bytes (next ())
  | .send .errors bytes next =>
    .send .errors bytes fun u => (next u).untilOutput found ended
  | .close .output _ => ended ()
  | .close .errors next => .close .errors fun u => (next u).untilOutput found ended
  | .pause length next => .pause length fun u => (next u).untilOutput found ended
  | .look next => .look fun t => (next t).untilOutput found ended
  | .edit change next => .edit change fun u => (next u).untilOutput found ended
  | .work next => .work fun u => (next u).untilOutput found ended

/-- A program that reads what another writes, of which some may be `waiting`; when it is over, the
other runs on until it writes again. -/
def readingFrom : Routine β → (waiting : Bytes) → (writer : Routine Unit) → Routine β
  | .done b, _, writer => writer.untilOutput (fun _ _ => .done b) fun _ => .done b
  | .receive most next, waiting, writer =>
    if waiting.isEmpty then
      writer.untilOutput
        (fun bytes writer => (next (bytes.take most)).readingFrom (bytes.drop most) writer)
        fun _ => (next []).readingFrom [] (.done ())
    else (next (waiting.take most)).readingFrom (waiting.drop most) writer
  | .send sink bytes next, waiting, writer =>
    .send sink bytes fun u => (next u).readingFrom waiting writer
  | .close sink next, waiting, writer => .close sink fun u => (next u).readingFrom waiting writer
  | .pause length next, waiting, writer =>
    .pause length fun u => (next u).readingFrom waiting writer
  | .look next, waiting, writer => .look fun t => (next t).readingFrom waiting writer
  | .edit change next, waiting, writer =>
    .edit change fun u => (next u).readingFrom waiting writer
  | .work next, waiting, writer => .work fun u => (next u).readingFrom waiting writer

/-- Writes bytes. -/
def write (sink : Sink) (bytes : Bytes) : Routine Unit := .send sink bytes fun _ => .done ()

/-- Looks at the files. -/
def files : Routine FileTree := .look .done

/-- Changes files. -/
def change (f : FileTree → FileTree) : Routine Unit := .edit f fun _ => .done ()

/-- Reads bytes. -/
def read (most : Nat) : Routine Bytes := .receive most .done

end Routine

/-- What a program wrote that nobody talked to, piece by piece, and how it ended. -/
structure Transcript where
  /-- What it wrote. -/
  pieces : List (Sink × Bytes)
  /-- How it ended. -/
  ending : Ending
  deriving Repr, DecidableEq, Inhabited

/-- Runs a program whose input is empty; `pieces` is what it wrote so far, the latest first. -/
def Routine.transcribe (pieces : List (Sink × Bytes)) (files : FileTree) :
    Routine Ending → Transcript × FileTree
  | .done ending => (⟨pieces.reverse, ending⟩, files)
  | .receive _ next => (next []).transcribe pieces files
  | .send sink bytes next => (next ()).transcribe ((sink, bytes) :: pieces) files
  | .close _ next => (next ()).transcribe pieces files
  | .pause _ next => (next ()).transcribe pieces files
  | .look next => (next files).transcribe pieces files
  | .edit change next => (next ()).transcribe pieces (change files)
  | .work next => (next ()).transcribe pieces files

end LintPool
