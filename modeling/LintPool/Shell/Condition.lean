import LintPool.Shell.Tool.Basic

set_option autoImplicit false

/-!
# Conditions

A condition is a text that is not empty, a test of one operand or of two, or made of conditions by
negation, conjunction and disjunction. It is read from a list of words; how a word counts depends on
the words behind it, so that an operator may also be an operand.

## Main definitions

* `LintPool.Shell.Condition.Role` — what a word may count as.
* `LintPool.Shell.Condition.holds` — whether the condition that some words make up holds.
-/

namespace LintPool.Shell.Condition

/-- What a word may count as. -/
inductive Role where
  | operand
  | unary (o : String)
  | binary (o : String)
  | negation
  | conjunction
  | disjunction
  | opening
  | closing
  /-- There is no word. -/
  | none
  deriving Repr, DecidableEq

/-- The tests of one operand. -/
def unaryOperators : List String :=
  ["-r", "-w", "-x", "-e", "-f", "-d", "-c", "-b", "-p", "-u", "-g", "-k", "-s", "-t", "-z", "-n",
    "-h", "-O", "-G", "-L", "-S"]

/-- The tests of two operands. -/
def binaryOperators : List String :=
  ["=", "!=", "<", ">", "-eq", "-ne", "-ge", "-gt", "-le", "-lt", "-nt", "-ot", "-ef"]

/-- What a word counts as by itself. -/
def Role.ofWord (w : Letters) : Role :=
  match w with
  | ['!'] => .negation
  | ['('] => .opening
  | [')'] => .closing
  | ['-', 'a'] => .conjunction
  | ['-', 'o'] => .disjunction
  | w =>
    match unaryOperators.find? (·.toList = w), binaryOperators.find? (·.toList = w) with
    | some o, _ => .unary o
    | _, some o => .binary o
    | _, _ => .operand

/-- Whether a role is that of a test of two operands. -/
def Role.isBinary : Role → Bool
  | .binary _ => true
  | _ => false

/-- What the first of some words counts as. -/
def roleOf : List Letters → Role
  | [] => .none
  | w :: rest =>
    match Role.ofWord w, rest with
    | .unary _, [] => .operand
    | .unary o, [_] => .unary o
    | .unary o, next :: _ => if (Role.ofWord next).isBinary then .operand else .unary o
    | .opening, [] => .operand
    | r, _ => r

/-- The number that an operand gives: an integer of 64 bits with blanks around it. -/
def number (w : Letters) : Except Letters Int :=
  let inner := w.dropWhile isBlank
  let inner := (inner.reverse.dropWhile isBlank).reverse
  match Tool.integer? inner with
  | some i => if i.natAbs < Nat.pow 2 63 then .ok i else .error ("Illegal number: ".toList ++ w)
  | none => .error ("Illegal number: ".toList ++ w)

/-- Whether a path leads to a link. -/
def isLink (t : FileTree) (w : Letters) : Bool :=
  match t.place false (State.path w) with
  | .ok (.found a) => match t.root.at? a with
    | some (.link _) => true
    | _ => false
  | _ => false

/-- Whether a test of one operand holds. -/
def unaryHolds (t : FileTree) (o : String) (w : Letters) : Bool :=
  let found := (t.inspect (State.path w)).toOption
  let device := Tool.isDevice w
  match o with
  | "-n" => !w.isEmpty
  | "-z" => w.isEmpty
  | "-e" | "-r" | "-w" | "-O" | "-G" => found.isSome || device
  | "-c" => device
  | "-f" => found.any Node.isFile
  | "-d" => found.any Node.isFolder
  | "-s" => found.any fun
    | .file content _ _ => !content.isEmpty
    | _ => true
  | "-x" => found.any fun
    | .file _ _ executable => executable
    | _ => true
  | "-h" | "-L" => isLink t w
  | _ => false

/-- The time of what a path leads to. -/
def timeOf (t : FileTree) (w : Letters) : Option Timestamp :=
  match t.inspect (State.path w) with
  | .ok (.file _ time _) => some time
  | .ok (.folder time _) => some time
  | _ => none

/-- Whether a test of two operands holds. -/
def binaryHolds (t : FileTree) (a : Letters) (o : String) (b : Letters) : Except Letters Bool :=
  let numbers := fun f : Int → Int → Bool => do return f (← number a) (← number b)
  let times := fun f : Timestamp → Timestamp → Bool =>
    match timeOf t a, timeOf t b with
    | some s, some t => f s t
    | _, _ => false
  match o with
  | "=" => .ok (a = b)
  | "!=" => .ok (a ≠ b)
  | "<" => .ok (a < b)
  | ">" => .ok (b < a)
  | "-eq" => numbers fun a b => a = b
  | "-ne" => numbers fun a b => a ≠ b
  | "-lt" => numbers fun a b => a < b
  | "-le" => numbers fun a b => a ≤ b
  | "-gt" => numbers fun a b => b < a
  | "-ge" => numbers fun a b => b ≤ a
  | "-nt" => .ok (times fun s t => t < s)
  | "-ot" => .ok (times fun s t => s < t)
  | _ => .ok ((t.locate (State.path a)).toOption.isSome
      && (t.locate (State.path a)).toOption = (t.locate (State.path b)).toOption)

/-- A verdict, with the words from the last one on that was looked at; or a complaint. -/
abbrev Verdict := Except Letters (Bool × List Letters)

mutual

/-- The disjunctions at the front of some words, of which the first counts as `r`. -/
def disjunctions (t : FileTree) : (fuel : Nat) → Role → List Letters → Verdict
  | 0, _, _ => .error []
  | fuel + 1, r, ws => do
    let (v, ws) ← conjunctions t fuel r ws
    if roleOf ws.tail = .disjunction then
      let rest := ws.drop 2
      let (w, rest) ← disjunctions t fuel (roleOf rest) rest
      return (v || w, rest)
    else return (v, ws)

/-- The conjunctions at the front of some words. -/
def conjunctions (t : FileTree) : (fuel : Nat) → Role → List Letters → Verdict
  | 0, _, _ => .error []
  | fuel + 1, r, ws => do
    let (v, ws) ← negations t fuel r ws
    if roleOf ws.tail = .conjunction then
      let rest := ws.drop 2
      let (w, rest) ← conjunctions t fuel (roleOf rest) rest
      return (v && w, rest)
    else return (v, ws)

/-- The negations at the front of some words. -/
def negations (t : FileTree) : (fuel : Nat) → Role → List Letters → Verdict
  | 0, _, _ => .error []
  | fuel + 1, r, ws =>
    if r = .negation then do
      let rest := ws.tail
      let (v, rest) ← negations t fuel (roleOf rest) rest
      return (!v, rest)
    else primary t fuel r ws

/-- The test at the front of some words. -/
def primary (t : FileTree) : (fuel : Nat) → Role → List Letters → Verdict
  | 0, _, _ => .error []
  | fuel + 1, r, ws =>
    match r, ws with
    | .none, ws => .ok (false, ws)
    | _, [] => .ok (false, [])
    | .opening, _ :: rest => do
      let (v, rest) ← disjunctions t fuel (roleOf rest) rest
      if roleOf rest.tail = .closing then return (v, rest.tail)
      else throw "closing paren expected".toList
    | .unary o, w :: rest =>
      match rest with
      | [] => .error (w ++ ": argument expected".toList)
      | a :: _ => .ok (unaryHolds t o a, rest)
    | _, a :: rest =>
      match roleOf rest, rest with
      | .binary o, _ :: b :: more => (binaryHolds t a o b).map fun v => (v, b :: more)
      | .binary o, _ => .error (o.toList ++ ": argument expected".toList)
      | _, _ => .ok (!a.isEmpty, a :: rest)

end

/-- Whether the condition that some words make up holds, or why they make up none. -/
def holds (t : FileTree) (ws : List Letters) : Except Letters Bool := do
  let between := match ws with
    | [_, o, _] => (Role.ofWord o).isBinary
    | _ => false
  let first := if between then .operand else roleOf ws
  let (v, rest) ← disjunctions t (4 * ws.length + 8) first ws
  match rest with
  | w :: _ :: _ => throw (w ++ ": unexpected operator".toList)
  | _ => return v

end LintPool.Shell.Condition
