import LintPool.Shell.Token

set_option autoImplicit false

/-!
# Sums

An expression has numbers, names of variables, the usual operators on integers and assignments. It
is read as a tree; what a choice, a conjunction or a disjunction does not need is not evaluated.

## Main definitions

* `LintPool.Shell.Sum` — an expression.
* `LintPool.Shell.Sum.ofLetters` — the expression that is written in a text.
* `LintPool.Shell.Sum.value` — its value, and the variables that it sets.
-/

namespace LintPool.Shell

/-! ## Symbols -/

/-- A piece of an expression. -/
inductive Symbol where
  | number (n : Int)
  | name (cs : Letters)
  | operator (s : String)
  /-- Something that cannot stand in an expression. -/
  | stray
  deriving Repr, DecidableEq

/-- The operators, a longer one before those it begins with. -/
def sumOperators : List String :=
  ["<<=", ">>=", "<<", ">>", "<=", ">=", "==", "!=", "&&", "||", "+=", "-=", "*=", "/=", "%=",
    "&=", "^=", "|=", "+", "-", "*", "/", "%", "<", ">", "!", "~", "&", "^", "|", "(", ")", "=",
    "?", ":"]

/-- An integer cut to 64 bits with a sign. -/
def wrap (i : Int) : Int := Int.bmod i (Nat.pow 2 64)

/-- The greatest number. -/
def greatest : Nat := Nat.pow 2 63 - 1

/-- The value of a digit in some base up to sixteen, if it is one. -/
def digitIn? (base : Nat) (c : Char) : Option Nat :=
  let d := if c.isDigit then c.toNat - '0'.toNat
    else if 'a' ≤ c.toLower && c.toLower ≤ 'f' then c.toLower.toNat - 'a'.toNat + 10 else base
  if d < base then some d else none

/-- The digits of a base off the front of a text, with their value. -/
def takeDigits (base : Nat) (value : Nat) : Letters → Nat × Letters
  | [] => (value, [])
  | c :: rest =>
    match digitIn? base c with
    | some d => takeDigits base (value * base + d) rest
    | none => (value, c :: rest)

/-- A number off the front of a text that begins with a digit: hexadecimal, octal or decimal. -/
def takeNumber (cs : Letters) : Int × Letters :=
  let (n, rest) := match cs with
    | '0' :: x :: d :: rest =>
      if (x = 'x' || x = 'X') && (digitIn? 16 d).isSome then takeDigits 16 0 (d :: rest)
      else takeDigits 8 0 cs
    | '0' :: rest => takeDigits 8 0 rest
    | cs => takeDigits 10 0 cs
  (min n greatest, rest)

/-- The pieces of an expression, at most `fuel` of them. -/
def symbols : (fuel : Nat) → Letters → List Symbol
  | 0, _ => []
  | _, [] => []
  | fuel + 1, c :: rest =>
    if isBlank c || c = '\n' then symbols fuel rest
    else if c.isDigit then
      let (n, rest) := takeNumber (c :: rest)
      .number n :: symbols fuel rest
    else if startsName c then
      .name ((c :: rest).takeWhile inName) :: symbols fuel ((c :: rest).dropWhile inName)
    else match sumOperators.find? fun o => o.toList.isPrefixOf (c :: rest) with
      | some o => .operator o :: symbols fuel ((c :: rest).drop o.length)
      | none => [.stray]

/-! ## Trees -/

/-- An expression. -/
inductive Sum where
  | number (n : Int)
  | variable (name : Letters)
  /-- An operator before its operand. -/
  | unary (o : String) (a : Sum)
  /-- An operator between its operands. -/
  | binary (o : String) (a b : Sum)
  /-- The second expression if the first is not zero, else the third. -/
  | choice (c a b : Sum)
  /-- A variable that gets a value; with an operator, one that is made from the value it has. -/
  | assignment (name : Letters) (o : Option String) (a : Sum)
  deriving Repr, Inhabited

/-- Why an expression has no value. -/
inductive SumFault where
  /-- Something else ought to stand somewhere. -/
  | expecting (what : String)
  /-- A division by zero. -/
  | divisionByZero
  /-- A variable whose value is no number. -/
  | illegal (value : Letters)
  deriving Repr, DecidableEq

/-- The wording of a fault in an expression. -/
def SumFault.message (expression : Letters) : SumFault → Letters
  | .expecting what =>
    s!"arithmetic expression: expecting {what}: \"".toList ++ expression ++ ['"']
  | .divisionByZero => "arithmetic expression: division by zero: \"".toList ++ expression ++ ['"']
  | .illegal value => "Illegal number: ".toList ++ value

/-- What reading an expression comes to, with the symbols that are left. -/
abbrev SumReading := Except SumFault (Sum × List Symbol)

/-- The binary operators by rank, the loosest first. -/
def ranks : List (List String) :=
  [["||"], ["&&"], ["|"], ["^"], ["&"], ["==", "!="], ["<", "<=", ">", ">="], ["<<", ">>"],
    ["+", "-"], ["*", "/", "%"]]

/-- The operator of an assignment: nothing for the plain one. -/
def assignment? (o : String) : Option (Option String) :=
  match o with
  | "=" => some none
  | "+=" => some (some "+")
  | "-=" => some (some "-")
  | "*=" => some (some "*")
  | "/=" => some (some "/")
  | "%=" => some (some "%")
  | "<<=" => some (some "<<")
  | ">>=" => some (some ">>")
  | "&=" => some (some "&")
  | "^=" => some (some "^")
  | "|=" => some (some "|")
  | _ => none

mutual

/-- Reads what stands before the next binary operator. -/
def readOperand : (fuel : Nat) → List Symbol → SumReading
  | 0, _ => .error (.expecting "primary")
  | fuel + 1, ss =>
    match ss with
    | .number n :: rest => .ok (.number n, rest)
    | .name v :: rest => .ok (.variable v, rest)
    | .operator "(" :: rest =>
      match readSum fuel rest with
      | .ok (a, .operator ")" :: rest) => .ok (a, rest)
      | .ok _ => .error (.expecting "')'")
      | .error f => .error f
    | .operator o :: rest =>
      if ["-", "+", "!", "~"].contains o then
        (readOperand fuel rest).map fun (a, rest) => (.unary o a, rest)
      else .error (.expecting "primary")
    | _ => .error (.expecting "primary")

/-- Reads operators of some ranks and all that binds more tightly. -/
def readRanked : (fuel : Nat) → List (List String) → List Symbol → SumReading
  | 0, _, _ => .error (.expecting "primary")
  | fuel + 1, [], ss => readOperand fuel ss
  | fuel + 1, rank :: tighter, ss =>
    match readRanked fuel tighter ss with
    | .ok (a, rest) => readMore fuel rank tighter a rest
    | .error f => .error f

/-- Reads operators of one rank after their first operand. -/
def readMore : (fuel : Nat) → List String → List (List String) → Sum → List Symbol → SumReading
  | 0, _, _, _, _ => .error (.expecting "primary")
  | fuel + 1, rank, tighter, a, ss =>
    match ss with
    | .operator o :: rest =>
      if rank.contains o then
        match readRanked fuel tighter rest with
        | .ok (b, rest) => readMore fuel rank tighter (.binary o a b) rest
        | .error f => .error f
      else .ok (a, ss)
    | _ => .ok (a, ss)

/-- Reads an expression that may be a choice. -/
def readChoice : (fuel : Nat) → List Symbol → SumReading
  | 0, _ => .error (.expecting "primary")
  | fuel + 1, ss =>
    match readRanked fuel ranks ss with
    | .ok (c, .operator "?" :: rest) =>
      match readSum fuel rest with
      | .ok (a, .operator ":" :: rest) =>
        (readChoice fuel rest).map fun (b, rest) => (.choice c a b, rest)
      | .ok _ => .error (.expecting "':'")
      | .error f => .error f
    | r => r

/-- Reads an expression that may be an assignment. -/
def readSum : (fuel : Nat) → List Symbol → SumReading
  | 0, _ => .error (.expecting "primary")
  | fuel + 1, ss =>
    match ss with
    | .name v :: .operator o :: rest =>
      match assignment? o with
      | some o => (readSum fuel rest).map fun (a, rest) => (.assignment v o a, rest)
      | none => readChoice fuel ss
    | _ => readChoice fuel ss

end

/-- The expression that is written in a text. -/
def Sum.ofLetters (cs : Letters) : Except SumFault Sum :=
  let ss := symbols (cs.length + 1) cs
  match readSum (16 * ss.length + 32) ss with
  | .ok (a, []) => .ok a
  | .ok _ => .error (.expecting "EOF")
  | .error f => .error f

/-! ## Values -/

/-- The number that stands for a truth value. -/
def truth (b : Bool) : Int := if b then 1 else 0

/-- An operation on the two's complement of integers. -/
def bitwise (f : Nat → Nat → Nat) (a b : Int) : Int :=
  wrap (f (a % Nat.pow 2 64).toNat (b % Nat.pow 2 64).toNat)

/-- The value of an operator before a number. -/
def signed (o : String) (a : Int) : Int :=
  match o with
  | "-" => wrap (-a)
  | "!" => truth (a = 0)
  | "~" => -a - 1
  | _ => a

/-- The value of an operator between two numbers. -/
def combine (o : String) (a b : Int) : Except SumFault Int :=
  match o with
  | "+" => .ok (wrap (a + b))
  | "-" => .ok (wrap (a - b))
  | "*" => .ok (wrap (a * b))
  | "/" => if b = 0 then .error .divisionByZero else .ok (wrap (Int.tdiv a b))
  | "%" => if b = 0 then .error .divisionByZero else .ok (Int.tmod a b)
  | "==" => .ok (truth (a = b))
  | "!=" => .ok (truth (a ≠ b))
  | "<" => .ok (truth (a < b))
  | "<=" => .ok (truth (a ≤ b))
  | ">" => .ok (truth (b < a))
  | ">=" => .ok (truth (b ≤ a))
  | "&" => .ok (bitwise Nat.land a b)
  | "|" => .ok (bitwise Nat.lor a b)
  | "^" => .ok (bitwise Nat.xor a b)
  | "<<" => .ok (wrap (a * Nat.pow 2 (b % 64).toNat))
  | _ => .ok (a / Nat.pow 2 (b % 64).toNat)

/-- The values of variables, the latest first. -/
abbrev Settings := List (Letters × Letters)

/-- The number that a value is; nothing counts as zero. -/
def numberIn (value : Letters) : Except SumFault Int :=
  let blank := fun c : Char => isBlank c || c = '\n'
  let (negative, digits) := match value.dropWhile blank with
    | '-' :: rest => (true, rest)
    | '+' :: rest => (false, rest)
    | rest => (false, rest)
  match digits with
  | [] => if value.all blank then .ok 0 else .error (.illegal value)
  | c :: rest =>
    if c.isDigit then
      let (n, rest) := takeNumber (c :: rest)
      if rest.all blank then .ok (if negative then -n else n) else .error (.illegal value)
    else .error (.illegal value)

/-- The value of a variable. -/
def valueOf (lookup : Letters → Letters) (set : Settings) (name : Letters) : Except SumFault Int :=
  numberIn (((set.find? (·.1 = name)).map (·.2)).getD (lookup name))

/-- The value of an expression, and the variables that have been set. -/
def Sum.value (lookup : Letters → Letters) (set : Settings) : Sum → Except SumFault (Int × Settings)
  | .number n => .ok (n, set)
  | .variable v => do return (← valueOf lookup set v, set)
  | .unary o a => do
    let (a, set) ← a.value lookup set
    return (signed o a, set)
  | .binary o a b => do
    let (a, set) ← a.value lookup set
    if o = "&&" && a = 0 then return (0, set)
    if o = "||" && a ≠ 0 then return (1, set)
    let (b, set) ← b.value lookup set
    if o = "&&" || o = "||" then return (truth (b ≠ 0), set)
    return (← combine o a b, set)
  | .choice c a b => do
    let (c, set) ← c.value lookup set
    if c ≠ 0 then a.value lookup set else b.value lookup set
  | .assignment v o a => do
    let (a, set) ← a.value lookup set
    let a ← match o with
      | some o => combine o (← valueOf lookup set v) a
      | none => .ok a
    return (a, (v, (toString a).toList) :: set)

/-- The value of the expression that is written in a text, and the variables that it sets. -/
def evaluate (lookup : Letters → Letters) (expression : Letters) :
    Except SumFault (Int × Settings) := do
  (← Sum.ofLetters expression).value lookup []

end LintPool.Shell
