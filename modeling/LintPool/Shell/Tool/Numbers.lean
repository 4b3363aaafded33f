import LintPool.Shell.Tool.Basic

set_option autoImplicit false

/-!
# Programs that wait or count

## Main definitions

* `LintPool.Shell.Tool.sleep` — waits.
* `LintPool.Shell.Tool.seq` — counts up or down.
-/

namespace LintPool.Shell.Tool

/-- The nanoseconds of a duration: a decimal number and a unit. -/
def duration? (cs : Letters) : Option Nat :=
  let whole := cs.takeWhile Char.isDigit
  let rest := cs.dropWhile Char.isDigit
  let (fraction, rest) := match rest with
    | '.' :: rest => (rest.takeWhile Char.isDigit, rest.dropWhile Char.isDigit)
    | rest => ([], rest)
  let unit? := match rest with
    | [] => some 1
    | ['s'] => some 1
    | ['m'] => some 60
    | ['h'] => some 3600
    | ['d'] => some 86400
    | _ => none
  match unit? with
  | none => none
  | some unit =>
    if whole.isEmpty && fraction.isEmpty then none
    else
      let digits := (fraction ++ List.replicate 9 '0').take 9
      some ((numberOf whole * Span.second + numberOf digits) * unit)

/-- Sleeps for the sum of some durations. -/
def sleep (s : Surrounding) : Routine Ending :=
  withOptions s "" "" fun g =>
    match g.operands.filter fun o => (duration? o).isNone with
    | [] =>
      if g.operands.isEmpty then misused s "missing operand"
      else .pause ⟨(g.operands.filterMap duration?).foldl (· + ·) 0⟩ fun _ => exit 0
    | bad =>
      let complaints := bad.map fun o => s!"invalid time interval '{textOf o}'"
      do
        for c in complaints.dropLast do complain s c
        misused s (complaints.getLastD "")

/-- Writes numbers from one to another, at most `fuel`; a separator stands before each but the
first. -/
def countUp (last step : Int) (separator : Letters) : (fuel : Nat) → (first : Bool) → Int →
    Routine Bool
  | 0, first, _ => return !first
  | fuel + 1, first, n =>
    if (0 < step && last < n) || (step < 0 && n < last) then .done !first
    else .send .output (bytesOf ((if first then [] else separator) ++ (toString n).toList)) fun _ =>
      countUp last step separator fuel false (n + step)

/-- The options at the front of the arguments of `seq`, which are no negative numbers: the separator
and the operands. -/
def separatorOf : List Letters → Letters × List Letters
  | ['-', 's'] :: separator :: rest => (separator, rest)
  | ('-' :: 's' :: separator) :: rest => (separator, rest)
  | rest => (['\n'], rest)

/-- Counts up or down. -/
def seq (s : Surrounding) : Routine Ending := do
  let (separator, operands) := separatorOf s.arguments
  match operands.find? fun o => (integer? o).isNone, operands.filterMap integer? with
  | some bad, _ => misused s s!"invalid floating point argument: '{textOf bad}'"
  | none, [] => misused s "missing operand"
  | none, [last] => go separator 1 1 last
  | none, [first, last] => go separator first 1 last
  | none, [first, step, last] =>
    if step = 0 then misused s "invalid Zero increment value: '0'"
    else go separator first step last
  | none, _ => misused s s!"extra operand '{textOf (operands.getD 3 [])}'"
where
  /-- Counts, and ends the line if there is one. -/
  go (separator : Letters) (first step last : Int) : Routine Ending := do
    if ← countUp last step separator rounds true first then print ['\n']
    exit 0

end LintPool.Shell.Tool
