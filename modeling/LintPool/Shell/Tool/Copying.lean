import LintPool.Shell.Tool.Basic

set_option autoImplicit false

/-!
# Programs that pass on what they read

## Main definitions

* `LintPool.Shell.Tool.cat`, `head`, `tail`, `tee`, `dd` — they pass on all or some of it.
* `LintPool.Shell.Tool.yes` — writes a line again and again.
-/

namespace LintPool.Shell.Tool

/-- Passes on so many bytes of what is read, in at most `fuel` rounds. -/
def copySome : (fuel : Nat) → (wanted : Nat) → Routine Unit
  | 0, _ => pure ()
  | _, 0 => pure ()
  | fuel + 1, wanted + 1 => .receive (wanted + 1) fun bytes =>
    if bytes.isEmpty then .done ()
    else .send .output bytes fun _ => copySome fuel (wanted + 1 - bytes.length)

/-- The first lines of some bytes. -/
def firstLines : Nat → Bytes → Bytes
  | 0, _ => []
  | _, [] => []
  | n + 1, b :: rest => b :: firstLines (if b = 0x0A then n else n + 1) rest

/-- Passes on so many lines of what is read, in at most `fuel` rounds. -/
def copyLines : (fuel : Nat) → (wanted : Nat) → Routine Unit
  | 0, _ => pure ()
  | _, 0 => pure ()
  | fuel + 1, wanted + 1 => .receive block fun bytes =>
    if bytes.isEmpty then .done ()
    else
      let lines := bytes.count 0x0A
      if lines ≤ wanted then .send .output bytes fun _ => copyLines fuel (wanted + 1 - lines)
      else .send .output (firstLines (wanted + 1) bytes) fun _ => .done ()

/-- Writes files, or what it reads. -/
def cat (s : Surrounding) : Routine Ending :=
  withOptions s "u" "" fun g => do
    if g.operands.isEmpty || g.operands = [['-']] then
      copy rounds
      exit 0
    else exit (← forEach s unreadable (fun _ bytes => .write .output bytes) 0 g.operands)

/-! ## Beginnings and ends -/

/-- How much of its input a program passes on. -/
structure Amount where
  /-- Whether bytes are counted, not lines. -/
  bytes : Bool
  /-- The sign before the number, if there is one. -/
  sign : Option Char
  /-- The number. -/
  number : Nat

/-- The amount that is written in a text. -/
def Amount.ofLetters? (bytes : Bool) (cs : Letters) : Option Amount :=
  match cs with
  | '-' :: ds => (number? ds).map fun n => ⟨bytes, some '-', n⟩
  | '+' :: ds => (number? ds).map fun n => ⟨bytes, some '+', n⟩
  | ds => (number? ds).map fun n => ⟨bytes, none, n⟩

/-- The arguments with a number as the first option written in the way of the others. -/
def withoutShorthand : List Letters → List Letters
  | ('-' :: c :: ds) :: rest =>
    if c.isDigit && ds.all Char.isDigit then ['-', 'n'] :: (c :: ds) :: rest
    else ('-' :: c :: ds) :: rest
  | args => args

/-- The amount that options ask for, or why they do not. -/
def amountOf (g : Given) : Except String Amount :=
  match g.options.reverse.find? fun o => o.1 = 'n' || o.1 = 'c' with
  | none => .ok ⟨false, none, 10⟩
  | some (c, v) =>
    match Amount.ofLetters? (c = 'c') v with
    | some a => .ok a
    | none =>
      let what := if c = 'c' then "bytes" else "lines"
      .error s!"invalid number of {what}: '{textOf v}'"

/-- Does something with each operand, headed by its name if there are several. -/
def forEachHeaded (s : Surrounding) (g : Given) (act : Bytes → Routine Unit) : Routine Ending := do
  let headed := (g.operands.length > 1 || g.has 'v') && !g.has 'q'
  let title := fun o : Letters =>
    "==> ".toList ++ (if o = ['-'] then "standard input".toList else o) ++ " <==\n".toList
  let code ← forEach s unopened
    (fun o bytes => do
      if headed then
        print (if some o = g.operands.head? then title o else '\n' :: title o)
      act bytes) 0 g.operands
  exit code

/-- Writes the beginning of files, or of what it reads. -/
def head (s : Surrounding) : Routine Ending :=
  let s := { s with arguments := withoutShorthand s.arguments }
  withOptions s "qvz" "nc" fun g => do
    match amountOf g with
    | .error what => complain s what; exit 1
    | .ok a =>
      let kept := fun content : Bytes =>
        let pieces := if a.bytes then content.map fun b => [b] else linesOf [] content
        let n := if a.sign = some '-' then pieces.length - a.number else a.number
        (pieces.take n).flatten
      if g.operands.isEmpty then
        if a.sign = some '-' then Routine.write .output (kept (← readAll rounds []))
        else if a.bytes then copySome rounds a.number else copyLines rounds a.number
        exit 0
      else if g.operands = ["/dev/zero".toList] && a.bytes then
        Routine.write .output (List.replicate a.number 0)
        exit 0
      else forEachHeaded s g fun content => .write .output (kept content)

/-- Writes the end of files, or of what it reads. -/
def tail (s : Surrounding) : Routine Ending :=
  let s := { s with arguments := withoutShorthand s.arguments }
  withOptions s "qvz" "nc" fun g => do
    match amountOf g with
    | .error what => complain s what; exit 1
    | .ok a =>
      let kept := fun content : Bytes =>
        let pieces := if a.bytes then content.map fun b => [b] else linesOf [] content
        let skipped := if a.sign = some '+' then a.number - 1 else pieces.length - a.number
        (pieces.drop skipped).flatten
      if g.operands.isEmpty then
        Routine.write .output (kept (← readAll rounds []))
        exit 0
      else forEachHeaded s g fun content => .write .output (kept content)

/-! ## Several targets -/

/-- Passes on everything that is read, to files as well, in at most `fuel` rounds. -/
def copyTo (s : Surrounding) (paths : List Path) : (fuel : Nat) → Routine Unit
  | 0 => pure ()
  | fuel + 1 => do
    let bytes ← Routine.read block
    if bytes.isEmpty then return
    Routine.write .output bytes
    for p in paths do change s (appendTo p bytes)
    copyTo s paths fuel

/-- Writes what it reads, and into files as well. -/
def tee (s : Surrounding) : Routine Ending :=
  withOptions s "ai" "" fun g => do
    let mut paths := []
    let mut code := 0
    for o in g.operands do
      let p := State.path o
      let t ← files s
      let old := if g.has 'a' then (t.read p).toOption.getD [] else []
      match t.writeFile p old 0 with
      | .ok _ =>
        change s fun t => (t.writeFile p old 0).toOption.getD t
        paths := paths ++ [p]
      | .error e =>
        complain s s!"{textOf o}: {wording e}"
        code := 1
    copyTo s paths rounds
    exit code

/-! ## Blocks -/

/-- Passes on so many blocks, in at most `fuel` rounds; the numbers of whole blocks, of others and
of bytes. -/
def copyBlocks (size : Nat) (put : Bytes → Routine Unit) : (fuel left : Nat) →
    (whole partly bytes : Nat) → Routine (Nat × Nat × Nat)
  | 0, _, whole, partly, bytes => return (whole, partly, bytes)
  | _, 0, whole, partly, bytes => return (whole, partly, bytes)
  | fuel + 1, left + 1, whole, partly, total => do
    let bytes ← Routine.read size
    if bytes.isEmpty then return (whole, partly, total)
    put bytes
    let full := bytes.length = size
    copyBlocks size put fuel left (if full then whole + 1 else whole)
      (if full then partly else partly + 1) (total + bytes.length)

/-- Passes on blocks. -/
def dd (s : Surrounding) : Routine Ending := do
  let value? := fun name : String =>
    (s.arguments.reverse.find? fun a => (name.toList ++ ['=']).isPrefixOf a).map
      fun a => a.drop (name.length + 1)
  let size := ((value? "bs").bind number?).getD 512
  let count := ((value? "count").bind number?).getD rounds
  let put := fun bytes => match value? "of" with
    | none => Routine.write .output bytes
    | some o => change s (appendTo (State.path o) bytes)
  if let some o := value? "of" then
    change s fun t => (t.writeFile (State.path o) [] 0).toOption.getD t
  let copied ← match value? "if" with
    | none => Except.ok <$> copyBlocks size put rounds count 0 0 0
    | some o =>
      match ← contentOf s o with
      | .error e => pure (.error (o, e))
      | .ok content =>
        let kept := content.take (size * count)
        put kept
        let rest := kept.length % size
        pure (.ok (kept.length / size, if rest = 0 then 0 else 1, kept.length))
  match copied with
  | .error (o, e) =>
    complain s s!"failed to open '{textOf o}': {wording e}"
    exit 1
  | .ok (whole, partly, _) =>
    if value? "status" ≠ some "none".toList then
      Routine.write .errors (Text.encode
        s!"{whole}+{partly} records in\n{whole}+{partly} records out\n")
    exit 0

/-! ## Repetition -/

/-- Writes a line again and again, at most `fuel` times. -/
def repeatLine (line : Bytes) : (fuel : Nat) → Routine Ending
  | 0 => exit 0
  | fuel + 1 => .send .output line fun _ => repeatLine line fuel

/-- Writes its arguments again and again. -/
def yes (s : Surrounding) : Routine Ending :=
  let line := if s.arguments.isEmpty then ['y'] else [' '].intercalate s.arguments
  repeatLine (bytesOf line ++ [0x0A]) 100000

end LintPool.Shell.Tool
