import LintPool.Shell.Arithmetic
import LintPool.Shell.Tool.Characters

set_option autoImplicit false

/-!
# Formats

A format is text with escapes and with places for arguments. It is used again as long as there are
arguments left.

## Main definitions

* `LintPool.Shell.unescaped` — a text with its escapes replaced.
* `LintPool.Shell.Directive` — how an argument is to be written.
* `LintPool.Shell.formatted` — a format filled with arguments.
-/

namespace LintPool.Shell

/-! ## Escapes -/

/-- The character of an escape, and what follows it: a letter, or at most three octal digits. -/
def escape? : Letters → Option (Char × Letters)
  | [] => none
  | c :: rest =>
    if Tool.isOctal c then
      let digits := ((c :: rest).take 3).takeWhile Tool.isOctal
      some (Tool.octal digits, (c :: rest).drop digits.length)
    else if c = 'e' then some ('\x1b', rest)
    else if "abfnrtv\\".toList.contains c then some (Tool.escaped c, rest)
    else none

/-- The character of an escape in a text that has a zero before octal numbers. -/
def textEscape? : Letters → Option (Char × Letters)
  | '0' :: rest =>
    let digits := (rest.take 3).takeWhile Tool.isOctal
    some (Tool.octal digits, rest.drop digits.length)
  | cs => escape? cs

/-- A text with its escapes replaced, in at most `fuel` steps, and whether it asks to stop. -/
def unescapedUpTo : (fuel : Nat) → Letters → Letters × Bool
  | 0, _ => ([], false)
  | _, [] => ([], false)
  | _, '\\' :: 'c' :: _ => ([], true)
  | fuel + 1, c :: rest =>
    let (d, rest) := if c = '\\' then (textEscape? rest).getD (c, rest) else (c, rest)
    let (cs, stops) := unescapedUpTo fuel rest
    (d :: cs, stops)

/-- A text with its escapes replaced, and whether it asks to stop. -/
def unescaped (cs : Letters) : Letters × Bool := unescapedUpTo (cs.length + 1) cs

/-! ## Directives -/

/-- How an argument is to be written. -/
structure Directive where
  /-- The flags. -/
  flags : Letters
  /-- The least number of characters. -/
  width : Nat
  /-- The most characters of a text, or the least digits of a number. -/
  precision : Option Nat
  /-- The letter of the conversion. -/
  conversion : Char
  deriving Repr

/-- Whether a directive has a flag. -/
def Directive.has (d : Directive) (flag : Char) : Bool := d.flags.contains flag

/-- A text filled up to the width of a directive, with blanks at one side. -/
def Directive.fill (d : Directive) (cs : Letters) : Letters :=
  let blanks := List.replicate (d.width - cs.length) ' '
  if d.has '-' then cs ++ blanks else blanks ++ cs

/-- A text under a directive, cut and filled. -/
def Directive.text (d : Directive) (cs : Letters) : Letters :=
  d.fill (match d.precision with
    | some n => cs.take n
    | none => cs)

/-- What stands before the digits of an integer under a directive. -/
def Directive.lead (d : Directive) (i : Int) (digits : Letters) : Letters :=
  match d.conversion with
  | 'x' => if d.has '#' && i ≠ 0 then "0x".toList else []
  | 'X' => if d.has '#' && i ≠ 0 then "0X".toList else []
  | 'o' => if d.has '#' && digits.head? ≠ some '0' then ['0'] else []
  | 'u' => []
  | _ => if i < 0 then ['-'] else if d.has '+' then ['+'] else if d.has ' ' then [' '] else []

/-- The digits of an integer under a directive. -/
def Directive.digits (d : Directive) (i : Int) : Letters :=
  let unsigned := (i % Nat.pow 2 64).toNat
  let digits := match d.conversion with
    | 'x' => Nat.toDigits 16 unsigned
    | 'X' => (Nat.toDigits 16 unsigned).map Char.toUpper
    | 'o' => Nat.toDigits 8 unsigned
    | 'u' => Nat.toDigits 10 unsigned
    | _ => Nat.toDigits 10 i.natAbs
  let digits := if d.precision = some 0 && i = 0 then [] else digits
  List.replicate ((d.precision.getD 0) - digits.length) '0' ++ digits

/-- The text of an integer under a directive. -/
def Directive.integer (d : Directive) (i : Int) : Letters :=
  let digits := d.digits i
  let lead := d.lead i digits
  if d.has '0' && !d.has '-' && d.precision.isNone then
    lead ++ List.replicate (d.width - lead.length - digits.length) '0' ++ digits
  else d.fill (lead ++ digits)

/-! ## Numbers in arguments -/

/-- An integer off the front of a text that begins with a digit, and what is left: hexadecimal,
octal or decimal. -/
def takeMagnitude? : Letters → Option (Nat × Letters)
  | '0' :: x :: d :: rest =>
    if (x = 'x' || x = 'X') && (digitIn? 16 d).isSome then some (takeDigits 16 0 (d :: rest))
    else some (takeDigits 8 0 ('0' :: x :: d :: rest))
  | '0' :: rest => some (takeDigits 8 0 rest)
  | c :: rest => if c.isDigit then some (takeDigits 10 0 (c :: rest)) else none
  | [] => none

/-- The number that an argument gives, and why it does so only in part; the number of a character
stands after a quote. -/
def argumentNumber (signed : Bool) (arg : Letters) : Int × Option String :=
  match arg with
  | '\'' :: cs => ((cs.head?.map Char.toNat).getD 0, none)
  | '"' :: cs => ((cs.head?.map Char.toNat).getD 0, none)
  | [] => (0, none)
  | arg =>
    let cs := arg.dropWhile fun c => c = ' ' || ('\t' ≤ c && c ≤ '\r')
    let (negative, digits) := match cs with
      | '-' :: ds => (true, ds)
      | '+' :: ds => (false, ds)
      | ds => (false, ds)
    match takeMagnitude? digits with
    | none => (0, some "expected numeric value")
    | some (n, rest) =>
      let i : Int := if negative then -n else n
      let high : Int := if signed then Nat.pow 2 63 - 1 else Nat.pow 2 64 - 1
      let low : Int := if signed then -Nat.pow 2 63 else -high
      let cut := max low (min high i)
      if !rest.isEmpty then (cut, some "not completely converted")
      else if cut ≠ i then
        (if signed then cut else high, some "Numerical result out of range")
      else (i, none)

/-! ## Filling -/

/-- What has become of a format and its arguments. -/
structure Filled where
  /-- The text. -/
  text : Letters
  /-- The complaints about arguments. -/
  complaints : List Letters
  /-- The arguments left. -/
  left : List Letters
  /-- Whether no more is to be written. -/
  stops : Bool
  /-- What is wrong with the format. -/
  failure : Option Letters

/-- A number in a directive and what is left; a star takes it from the arguments. -/
def directiveNumber (args : List Letters) : Letters → Int × List Letters × Letters
  | '*' :: rest => ((args.head?.map fun a => (argumentNumber true a).1).getD 0, args.tail, rest)
  | rest => (numberOf (rest.takeWhile Char.isDigit), args, rest.dropWhile Char.isDigit)

/-- Reads a directive after its percent sign: how long it is, the directive if it has a letter, the
arguments left and what follows. -/
def readDirective (args : List Letters) (cs : Letters) :
    Option Directive × List Letters × Letters :=
  let flags := cs.takeWhile fun c => "-+ #0".toList.contains c
  let (width, args, rest) := directiveNumber args (cs.drop flags.length)
  let (precision, args, rest) := match rest with
    | '.' :: rest =>
      let (n, args, rest) := directiveNumber args rest
      (some n, args, rest)
    | rest => (none, args, rest)
  match rest with
  | [] => (none, args, [])
  | conversion :: rest =>
    let flags := if width < 0 then '-' :: flags else flags
    let precision := (precision.filter (0 ≤ ·)).map Int.toNat
    (some ⟨flags, width.natAbs, precision, conversion⟩, args, rest)

/-- Puts text before what is there. -/
def Filled.after (cs : Letters) (f : Filled) : Filled := { f with text := cs ++ f.text }

/-- The text of an integer argument before what is there, with the complaint about it. -/
def Filled.afterInteger (d : Directive) (signed : Bool) (arg : Letters) (f : Filled) : Filled :=
  let (i, complaint) := argumentNumber signed arg
  { f with
    text := d.integer i ++ f.text
    complaints := (complaint.toList.map fun c => arg ++ s!": {c}".toList) ++ f.complaints }

/-- Fills a format once, in at most `fuel` steps. -/
def fillOnce : (fuel : Nat) → List Letters → Letters → Filled
  | 0, args, _ => ⟨[], [], args, false, none⟩
  | _, args, [] => ⟨[], [], args, false, none⟩
  | fuel + 1, args, '%' :: '%' :: rest => (fillOnce fuel args rest).after ['%']
  | fuel + 1, args, '%' :: cs =>
    match readDirective args cs with
    | (none, args, _) => ⟨[], [], args, true, some "missing format character".toList⟩
    | (some d, args, rest) =>
      let arg := args.headD []
      let onward := fun _ : Unit => fillOnce fuel args.tail rest
      match d.conversion with
      | 's' => (onward ()).after (d.text arg)
      | 'c' => (onward ()).after (d.fill [arg.headD '\x00'])
      | 'b' =>
        let (cs, stops) := unescaped arg
        if stops then ⟨d.text cs, [], [], true, none⟩ else (onward ()).after (d.text cs)
      | 'd' => (onward ()).afterInteger d true arg
      | 'i' => (onward ()).afterInteger d true arg
      | 'o' => (onward ()).afterInteger d false arg
      | 'u' => (onward ()).afterInteger d false arg
      | 'x' => (onward ()).afterInteger d false arg
      | 'X' => (onward ()).afterInteger d false arg
      | _ =>
        let directive := '%' :: cs.take (cs.length - rest.length)
        ⟨[], [], [], true, some (directive ++ ": invalid directive".toList)⟩
  | fuel + 1, args, c :: rest =>
    let (d, rest) := if c = '\\' then (escape? rest).getD (c, rest) else (c, rest)
    (fillOnce fuel args rest).after [d]

/-- A format filled with arguments, at most `fuel` times. -/
def formattedUpTo (format : Letters) : (fuel : Nat) → List Letters → Filled
  | 0, args => ⟨[], [], args, true, none⟩
  | fuel + 1, args =>
    let f := fillOnce (format.length + 1) args format
    if f.stops || f.left.isEmpty || f.left.length = args.length then f
    else
      let g := formattedUpTo format fuel f.left
      { g with text := f.text ++ g.text, complaints := f.complaints ++ g.complaints }

/-- A format filled with arguments. -/
def formatted (format : Letters) (args : List Letters) : Filled :=
  formattedUpTo format (args.length + 1) args

end LintPool.Shell
