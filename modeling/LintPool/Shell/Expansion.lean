import LintPool.Shell.Engine
import LintPool.Shell.Arithmetic

set_option autoImplicit false

/-!
# From words to fields

Before a command runs, the values of variables, the outputs of scripts and the sums are put into
its words. What stands outside quotes and comes from there is divided into fields at blanks; a
field that is a pattern is replaced by the names of the files that it matches.

## Main definitions

* `LintPool.Shell.fieldsOf` — the fields that words come to.
* `LintPool.Shell.textOfWord` — the text that a word comes to where it is not divided.
* `LintPool.Shell.patternOfWord` — the pattern that a word comes to.
-/

namespace LintPool.Shell

/-- A piece of what a word comes to. -/
inductive Piece where
  /-- A character; `divides` says whether it may divide fields. -/
  | mark (m : Mark) (divides : Bool)
  /-- The end of a field. -/
  | cut
  /-- There is a field, though it may be empty. -/
  | present
  deriving Repr

/-- The pieces of a value. -/
def valuePieces (quoted : Bool) (cs : Letters) : List Piece :=
  (if quoted then [Piece.present] else []) ++ cs.map fun c => .mark ⟨c, quoted⟩ !quoted

/-- The value of a variable or parameter that is one text, if it has one. -/
def parameter? (s : State) (name : Letters) : Option Letters :=
  match name with
  | ['?'] => some (toString s.status).toList
  | ['#'] => some (toString s.parameters.length).toList
  | ['$'] => some "100".toList
  | ['-'] => some (options s)
  | ['!'] => s.jobs.getLast?.map fun j => (toString j.number).toList
  | ['0'] => some s.name
  | ['*'] => if s.parameters.isEmpty then none else some (joined s)
  | ['@'] => if s.parameters.isEmpty then none else some ([' '].intercalate s.parameters)
  | c :: cs =>
    if c.isDigit then s.parameters[numberOf (c :: cs) - 1]? else s.lookup? name
  | [] => none
where
  /-- The letters of the options that are set. -/
  options (s : State) : Letters :=
    (if s.needsValues then ['u'] else []) ++ (if s.shows then ['x'] else [])
      ++ (if s.keepsPatterns then ['f'] else []) ++ if s.stopsOnFailure then ['e'] else []
  /-- The parameters as one text. -/
  joined (s : State) : Letters :=
    let between := match s.lookup? "IFS".toList with
      | none => [' ']
      | some ifs => ifs.take 1
    between.intercalate s.parameters

/-- The pieces of the parameters, each a field of its own. -/
def parameterPieces (quoted : Bool) (ps : List Letters) : List Piece :=
  [Piece.cut].intercalate (ps.map (valuePieces quoted))

/-- The text of some marks. -/
def plain (ms : List Mark) : Letters := ms.map Mark.char

/-- The complaint about a variable without a value. -/
def lacking (evenEmpty : Bool) : Letters :=
  (if evenEmpty then "parameter not set or null" else "parameter not set").toList

/-- The value of a variable or parameter where none counts as empty, unless values are needed. -/
def neededValue (name : Letters) : Act Letters := do
  let s ← state
  match parameter? s name with
  | some v => return v
  | none =>
    if s.needsValues && name ≠ ['@'] && name ≠ ['*'] then
      giveUp (name ++ ": ".toList ++ lacking false)
    else return []

/-- What a value comes to that is put to some use. -/
def usePieces (e : Engine) (quoted : Bool) (name : Letters) (use : Use) : Act (List Piece) := do
  let s ← state
  let value := parameter? s name
  let lacks := fun evenEmpty : Bool => value.isNone || (evenEmpty && value = some [])
  let asPieces := fun ms : List Mark =>
    (if quoted then [Piece.present] else [])
      ++ ms.map fun m => Piece.mark ⟨m.char, quoted || m.quoted⟩ (!quoted && !m.quoted)
  match use with
  | .asIs =>
    if name = ['@'] || (name = ['*'] && !quoted) then return parameterPieces quoted s.parameters
    return valuePieces quoted (← neededValue name)
  | .length => return valuePieces quoted (toString (← neededValue name).length).toList
  | .orElse evenEmpty w =>
    if lacks evenEmpty then return asPieces (← e.marks w)
    if name = ['@'] then return parameterPieces quoted s.parameters
    return valuePieces quoted (value.getD [])
  | .orAssign evenEmpty w =>
    if lacks evenEmpty then
      let v := plain (← e.marks w)
      assign name v
      return valuePieces quoted v
    return valuePieces quoted (value.getD [])
  | .orFail evenEmpty w =>
    if lacks evenEmpty then
      let v := plain (← e.marks w)
      giveUp (name ++ ": ".toList ++ if v.isEmpty then lacking evenEmpty else v)
    return valuePieces quoted (value.getD [])
  | .ifPresent evenEmpty w =>
    if lacks evenEmpty then return valuePieces quoted []
    return asPieces (← e.marks w)
  | .senseless => giveUp "Bad substitution".toList
  | .strip atEnd longest w =>
    return valuePieces quoted (stripped atEnd longest (← e.marks w) (← neededValue name))

/-- Runs a script in a shell of its own; yields what it writes. -/
def outputOf (e : Engine) (script : Letters) : Act Letters := do
  let s ← state
  let outlets := (1, .sink .output) :: s.outlets.filter (·.1 ≠ 1)
  let own := { s with outlets, excused := false }
  let (ending, bytes) ← Act.outside ((ownShell e (e.script script) own).capture [])
  if let .killed signal := ending then halt (.killed signal)
  update fun s => { s with outputStatus := some (codeOf ending) }
  let kept := bytes.filter (· ≠ 0)
  return lettersOf (kept.reverse.dropWhile (· = 0x0A)).reverse

/-- What a piece of a word comes to. -/
def piecesOf (e : Engine) : Part → Act (List Piece)
  | .literal quoted cs =>
    return (if quoted then [Piece.present] else []) ++ cs.map fun c => .mark ⟨c, quoted⟩ false
  | .value quoted name use => usePieces e quoted name use
  | .output quoted script => return valuePieces quoted (← outputOf e script)
  | .sum quoted expression => do
    let cs := plain (← e.marks expression)
    let s ← state
    match evaluate (fun name => (s.lookup? name).getD []) cs with
    | .ok (v, set) =>
      for (name, value) in set.reverse do assign name value
      return valuePieces quoted (toString v).toList
    | .error f => giveUp (f.message cs)

/-- What a word comes to. -/
def expand (e : Engine) : Word → Act (List Piece)
  | [] => return []
  | p :: rest => return (← piecesOf e p) ++ (← expand e rest)

/-- The marks of some pieces, fields put together with blanks. -/
def marksOf : List Piece → List Mark
  | [] => []
  | .mark m _ :: rest => m :: marksOf rest
  | .cut :: rest => ⟨' ', true⟩ :: marksOf rest
  | .present :: rest => marksOf rest

/-- The pattern that a word comes to. -/
def patternOfWord (e : Engine) (w : Word) : Act (List Mark) := return marksOf (← expand e w)

/-- The text that a word comes to where it is not divided. -/
def textOfWord (e : Engine) (w : Word) : Act Letters := return plain (← patternOfWord e w)

/-! ## Fields -/

/-- How far the division of pieces into fields is. -/
inductive Division where
  /-- Before a field, of which nothing has come yet. -/
  | before
  /-- In a field. -/
  | inside
  /-- Behind a field that a blank has ended; a divider that is no blank ends no other field. -/
  | behind
  deriving DecidableEq

/-- Divides pieces into fields; the field under construction is held backwards. -/
def divide (ifs : Letters) (field : List Mark) (place : Division) : List Piece → List (List Mark)
  | [] => if place = .inside then [field.reverse] else []
  | .present :: rest => divide ifs field .inside rest
  | .cut :: rest =>
    if place = .inside then field.reverse :: divide ifs [] .before rest
    else divide ifs [] .before rest
  | .mark m divides :: rest =>
    if divides && ifs.contains m.char then
      let blank := m.char = ' ' || m.char = '\t' || m.char = '\n'
      match place, blank with
      | .inside, true => field.reverse :: divide ifs [] .behind rest
      | .behind, true => divide ifs [] .behind rest
      | .before, true => divide ifs [] .before rest
      | .behind, false => divide ifs [] .before rest
      | _, false => field.reverse :: divide ifs [] .before rest
    else divide ifs (m :: field) .inside rest

/-- The characters that divide fields. -/
def dividers (s : State) : Letters := (s.lookup? "IFS".toList).getD " \t\n".toList

/-- Divides marks at slashes. -/
def splitAtSlashes (ms : List Mark) : List (List Mark) :=
  match ms with
  | [] => [[]]
  | m :: rest =>
    match splitAtSlashes rest with
    | [] => [[m]]
    | first :: more => if m.char = '/' then [] :: first :: more else (m :: first) :: more

/-- The paths that a pattern matches, which goes on from a path. -/
def pathsMatching (t : FileTree) (start : Letters) : List (List Mark) → List Letters
  | [] => [start]
  | name :: rest =>
    let here := fun n : Letters =>
      if start.isEmpty || start.getLast? = some '/' then start ++ n else start ++ '/' :: n
    if name.isEmpty then pathsMatching t (start ++ ['/']) rest
    else if isPattern name then
      let folder := if start.isEmpty then ['.'] else start
      match t.inspect (State.path folder) with
      | .ok (.folder _ entries) =>
        let names := entries.map fun entry => lettersOfText (String.ofList entry.1)
        let fitting := names.filter fun n => matchesPattern name n &&
          (n.head? ≠ some '.' || (name.head?.map Mark.char) = some '.')
        (fitting.mergeSort (· ≤ ·)).flatMap fun n => pathsMatching t (here n) rest
      | _ => []
    else
      let next := here (plain name)
      if (t.inspect (State.path next)).isOk then pathsMatching t next rest else []

/-- The fields that a field comes to: the files that it matches, if it is a pattern. -/
def matchFiles (ms : List Mark) : Act (List Letters) := do
  if isPattern ms && !(← state).keepsPatterns then
    match pathsMatching (← files) [] (splitAtSlashes ms) with
    | [] => return [plain ms]
    | found => return found
  else return [plain ms]

/-- The fields that a word comes to. -/
def fieldsOfWord (e : Engine) (w : Word) : Act (List Letters) := do
  let ps ← expand e w
  let s ← state
  return (← (divide (dividers s) [] .before ps).mapM matchFiles).flatten

/-- The fields that words come to. -/
def fieldsOf (e : Engine) : List Word → Act (List Letters)
  | [] => return []
  | w :: rest => return (← fieldsOfWord e w) ++ (← fieldsOf e rest)

end LintPool.Shell
