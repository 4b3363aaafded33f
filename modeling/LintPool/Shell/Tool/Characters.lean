import LintPool.Shell.Tool.Basic

set_option autoImplicit false

/-!
# Programs that look at characters

## Main definitions

* `LintPool.Shell.Tool.wc` — counts lines, words and bytes.
* `LintPool.Shell.Tool.tr` — replaces or leaves out characters.
-/

namespace LintPool.Shell.Tool

/-! ## Counting -/

/-- The number of words. -/
def countWords (inWord : Bool) : Bytes → Nat
  | [] => 0
  | b :: rest =>
    if b = 0x20 || (0x09 ≤ b && b ≤ 0x0D) then countWords false rest
    else (if inWord then 0 else 1) + countWords true rest

/-- A number with blanks before it up to some width. -/
def padded (width n : Nat) : Letters :=
  let ds := (toString n).toList
  List.replicate (width - ds.length) ' ' ++ ds

/-- What is counted of some bytes. -/
def countsOf (g : Given) (bytes : Bytes) : List Nat :=
  let all := g.options.isEmpty
  (if all || g.has 'l' then [bytes.count 0x0A] else [])
    ++ (if all || g.has 'w' then [countWords false bytes] else [])
    ++ (if g.has 'm' then [(Text.decodeLossy bytes).length] else [])
    ++ (if all || g.has 'c' then [bytes.length] else [])
    ++ if g.has 'L' then [((textLines bytes).map List.length).foldl max 0] else []

/-- A line with counts and a name. -/
def countLine (width : Nat) (counts : List Nat) (name : Option Letters) : Letters :=
  [' '].intercalate (counts.map (padded width)) ++ match name with
    | some n => ' ' :: n
    | none => []

/-- Counts lines, words and bytes. -/
def wc (s : Surrounding) : Routine Ending :=
  withOptions s "lwcmL" "" fun g => do
    if g.operands.isEmpty then
      let counts := countsOf g (← readAll rounds [])
      printLine (countLine (if counts.length = 1 then 1 else 7) counts none)
      exit 0
    else
      let t ← files s
      let sizes := g.operands.map fun o => ((t.read (State.path o)).toOption.map List.length).getD 0
      let width := if (countsOf g []).length = 1 && g.operands.length = 1 then 1
        else if g.operands.contains ['-'] then 7
        else (toString (sizes.foldl (· + ·) 0)).length
      let mut total := (countsOf g []).map fun _ => 0
      let mut code := 0
      for o in g.operands do
        match ← contentOf s o with
        | .ok bytes =>
          let counts := countsOf g bytes
          total := total.zipWith (· + ·) counts
          printLine (countLine width counts (some o))
        | .error e =>
          complain s (unreadable o e)
          if e = .isFolder then
            printLine (countLine (max width 7) (total.map fun _ => 0) (some o))
          code := 1
      if g.operands.length > 1 then
        printLine (countLine width total (some "total".toList))
      exit code

/-! ## Sets of characters -/

/-- The character that a letter after a backslash means. -/
def escaped : Char → Char
  | 'n' => '\n'
  | 't' => '\t'
  | 'r' => '\r'
  | 'a' => '\x07'
  | 'b' => '\x08'
  | 'f' => '\x0c'
  | 'v' => '\x0b'
  | c => c

/-- Whether a character is an octal digit. -/
def isOctal (c : Char) : Bool := '0' ≤ c && c ≤ '7'

/-- The value of octal digits, cut to a byte. -/
def octal (digits : Letters) : Char :=
  Char.ofNat (digits.foldl (fun n c => n * 8 + (c.toNat - '0'.toNat)) 0 % 256)

/-- The marks of a set, its escapes replaced and quoted, in at most `fuel` steps. -/
def setMarks : (fuel : Nat) → Letters → List Mark
  | 0, _ => []
  | _, [] => []
  | fuel + 1, '\\' :: c :: rest =>
    if isOctal c then
      let digits := (c :: rest.take 2).takeWhile isOctal
      ⟨octal digits, true⟩ :: setMarks fuel ((c :: rest).drop digits.length)
    else ⟨escaped c, true⟩ :: setMarks fuel rest
  | fuel + 1, c :: rest => ⟨c, false⟩ :: setMarks fuel rest

/-- All bytes as characters. -/
def allLetters : Letters := (List.range 256).map Char.ofNat

/-- The characters that a set stands for, in at most `fuel` steps. -/
def expandSet : (fuel : Nat) → List Mark → Letters
  | 0, _ => []
  | _, [] => []
  | fuel + 1, a :: ⟨'-', false⟩ :: b :: rest =>
    (allLetters.filter fun c => a.char ≤ c && c ≤ b.char) ++ expandSet fuel rest
  | fuel + 1, ⟨'[', false⟩ :: ⟨':', false⟩ :: rest =>
    match className? rest with
    | some (name, rest) => allLetters.filter (namedClass name) ++ expandSet fuel rest
    | none => '[' :: expandSet fuel (⟨':', false⟩ :: rest)
  | fuel + 1, m :: rest => m.char :: expandSet fuel rest

/-- The characters of a set as it is written. -/
def setOf (cs : Letters) : Letters :=
  let ms := setMarks (cs.length + 1) cs
  expandSet (ms.length + 1) ms

/-- Leaves out a character that repeats the one before it and is in a set. -/
def squeeze (set : Letters) (last : Option Char) : Letters → Letters
  | [] => []
  | c :: rest =>
    if last = some c && set.contains c then squeeze set last rest
    else c :: squeeze set (some c) rest

/-- Passes on what is read piece by piece, changed in a way that depends on the last character
before the piece, in at most `fuel` rounds. -/
def copyChanged (f : Option Char → Letters → Letters) : (fuel : Nat) → Option Char → Routine Unit
  | 0, _ => pure ()
  | fuel + 1, last => .receive block fun bytes =>
    if bytes.isEmpty then .done ()
    else
      let cs := f last (lettersOf bytes)
      .send .output (bytesOf cs) fun _ => copyChanged f fuel (cs.getLast?.or last)

/-- What a character becomes if each of some characters becomes the one at its place in a second
set, of which the last is repeated as often as needed. -/
def replaced (first second : Letters) (c : Char) : Char :=
  let filled := second ++ List.replicate first.length (second.getLastD c)
  match (first.zip filled).reverse.find? (·.1 = c) with
  | some (_, d) => d
  | none => c

/-- Replaces or leaves out characters of what it reads. -/
def tr (s : Surrounding) : Routine Ending :=
  withOptions s "cCdst" "" fun g => do
    let deletes := g.has 'd'
    let squeezes := g.has 's'
    match g.operands with
    | [] => misused s "missing operand"
    | first :: more =>
      if more.isEmpty && deletes = squeezes then
        misused s (s!"missing operand after '{textOf first}'\nTwo strings must be given when "
          ++ if deletes then "both deleting and squeezing repeats." else "translating.")
      else if !more.isEmpty && deletes && !squeezes then
        misused s (s!"extra operand '{textOf (more.headD [])}'\nOnly one string may be given when "
          ++ "deleting without squeezing repeats.")
      else if more.length > 1 then
        misused s s!"extra operand '{textOf (more.getD 1 [])}'"
      else
        let set := setOf first
        let complement := g.has 'c' || g.has 'C'
        let set := if complement then allLetters.filter fun c => !set.contains c else set
        let second := more.head?.map setOf
        let set := if g.has 't' then set.take (second.getD set).length else set
        let change := fun cs : Letters =>
          if deletes then cs.filter fun c => !set.contains c
          else match second with
            | some second => cs.map (replaced set second)
            | none => cs
        let repeats := second.getD set
        copyChanged (fun last cs =>
          if squeezes then squeeze repeats last (change cs) else change cs) rounds none
        exit 0

end LintPool.Shell.Tool
