import LintPool.Shell.Tool.Basic

set_option autoImplicit false

/-!
# Programs that look at lines

## Main definitions

* `LintPool.Shell.Tool.sort` — writes lines in order.
* `LintPool.Shell.Tool.uniq` — writes a line once that is repeated.
* `LintPool.Shell.Tool.cut` — writes parts of lines.
-/

namespace LintPool.Shell.Tool

/-! ## Order -/

/-- The integer that a line begins with. -/
def leadingNumber (cs : Letters) : Int :=
  match cs.dropWhile fun c => c = ' ' || c = '\t' with
  | '-' :: ds => -numberOf (ds.takeWhile Char.isDigit)
  | ds => numberOf (ds.takeWhile Char.isDigit)

/-- Leaves out a line that is like the one before it. -/
def withoutRepeats (alike : Letters → Letters → Bool) : List Letters → List Letters
  | a :: b :: rest =>
    if alike a b then withoutRepeats alike (a :: rest) else a :: withoutRepeats alike (b :: rest)
  | ls => ls
termination_by ls => ls.length

/-- Writes lines in order. -/
def sort (s : Surrounding) : Routine Ending :=
  withOptions s "nrufs" "" fun g => do
    let (bytes, code) ← readOperands s
      (fun o e => s!"cannot read: {textOf o}: {wording e}") g.operands
    let key := fun l : Letters => if g.has 'f' then l.map Char.toUpper else l
    let below := fun a b : Letters =>
      if g.has 'n' then decide (leadingNumber a < leadingNumber b) else decide (key a < key b)
    let alike := fun a b => !below a b && !below b a
    let plain := g.has 'u' || g.has 's'
    let before := fun a b : Letters =>
      if below a b then true
      else if below b a then false
      else plain || noLater a b
    let order := fun a b => if g.has 'r' then before b a else before a b
    let sorted := (textLines bytes).mergeSort order
    for l in if g.has 'u' then withoutRepeats alike sorted else sorted do printLine l
    exit (if code = 0 then 0 else 2)

/-! ## Repetition -/

/-- Runs of equal lines, each with its length. -/
def runsOf : List Letters → List (Letters × Nat)
  | [] => []
  | l :: rest =>
    match runsOf rest with
    | (m, n) :: runs => if l = m then (l, n + 1) :: runs else (l, 1) :: (m, n) :: runs
    | [] => [(l, 1)]

/-- Writes a line once that is repeated. -/
def uniq (s : Surrounding) : Routine Ending :=
  withOptions s "cdu" "" fun g => do
    let (bytes, code) ← readOperands s unreadable (g.operands.take 1)
    for (l, n) in runsOf (textLines bytes) do
      if (!g.has 'd' || n > 1) && (!g.has 'u' || n = 1) then
        let count := (toString n).toList
        let counted := List.replicate (7 - count.length) ' ' ++ count ++ ' ' :: l
        printLine (if g.has 'c' then counted else l)
    exit code

/-! ## Parts -/

/-- A text divided at each occurrence of a character. -/
def dividedAt (c : Char) (cs : Letters) : List Letters :=
  match cs with
  | [] => [[]]
  | d :: rest =>
    match dividedAt c rest with
    | [] => [[d]]
    | first :: more => if d = c then [] :: first :: more else (d :: first) :: more

/-- The places from one to another that an item of a list stands for. -/
def placesOf? (item : Letters) : Option (Nat × Option Nat) :=
  match dividedAt '-' item with
  | [n] => (number? n).map fun n => (n, some n)
  | [a, b] =>
    let low := if a.isEmpty then some 1 else number? a
    match low, b with
    | some low, [] => if a.isEmpty then none else some (low, none)
    | some low, b => (number? b).map fun b => (low, some b)
    | none, _ => none
  | _ => none

/-- The items of a list at chosen places, counted from one. -/
def atPlaces {α : Type} (places : List (Nat × Option Nat)) (items : List α) : List α :=
  ((List.range items.length).zip items).filterMap fun (i, x) =>
    if places.any fun (low, high) => low ≤ i + 1 && high.all (i + 1 ≤ ·) then some x else none

/-- Writes parts of lines. -/
def cut (s : Surrounding) : Routine Ending :=
  withOptions s "sn" "dfcb" fun g => do
    let list := (g.value? 'f').or ((g.value? 'c').or (g.value? 'b'))
    match list.bind fun l => (dividedAt ',' l).mapM placesOf? with
    | none => misused s "you must specify a list of bytes, characters, or fields"
    | some places =>
      let (bytes, code) ← readOperands s unreadable g.operands
      let delimiter := ((g.value? 'd').bind List.head?).getD '\t'
      for l in textLines bytes do
        if !g.has 'f' then printLine (atPlaces places l)
        else if l.contains delimiter then
          printLine ([delimiter].intercalate (atPlaces places (dividedAt delimiter l)))
        else if !g.has 's' then printLine l
      exit code

end LintPool.Shell.Tool
