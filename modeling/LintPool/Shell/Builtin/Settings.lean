import LintPool.Shell.Builtin.Text
import LintPool.Shell.Signal

set_option autoImplicit false

/-!
# Commands of the shell that change its settings

## Main definitions

* `LintPool.Shell.Builtin.set` — sets options and parameters.
* `LintPool.Shell.Builtin.exportAll`, `readonly`, `makeLocal`, `unset` — change variables.
* `LintPool.Shell.Builtin.cd` — goes to another folder.
-/

namespace LintPool.Shell.Builtin

/-! ## Variables -/

/-- The variables in the order of their names. -/
def sortedVariables (s : State) : List Variable :=
  s.bindings.mergeSort fun a b => noLater a.name b.name

/-- Writes the variables that fulfil a condition, each after a verb. -/
def showVariables (verb : String) (shown : Variable → Bool) : Act Nat := do
  let lines := ((sortedVariables (← state)).filter shown).flatMap fun v =>
    verb.toList ++ v.name ++ (match v.value with
      | some value => '=' :: inQuotes value
      | none => []) ++ ['\n']
  put lines

/-- The name and the value that an argument gives. -/
def settingOf (a : Letters) : Letters × Option Letters :=
  match a.dropWhile (· ≠ '=') with
  | _ :: value => (a.takeWhile (· ≠ '='), some value)
  | [] => (a, none)

/-- Changes variables in some way, after they got the values that are given for them. -/
def declare (change : Letters → State → State) : List Letters → Act Nat
  | [] => return 0
  | a :: rest => do
    let (name, value) := settingOf a
    if !isName name then giveUp (name ++ ": bad variable name".toList)
    if let some value := value then assign name value
    update (change name)
    declare change rest

/-- Makes variables known to programs, or writes those that are. -/
def exportAll (args : List Letters) : Act Nat := do
  let (_, names) ← flagsOf "p" args
  if names.isEmpty then showVariables "export " Variable.exported
  else declare (fun name s => s.exportVariable name) names

/-- Lets variables keep their values for good, or writes those that do. -/
def readonly (args : List Letters) : Act Nat := do
  let (_, names) ← flagsOf "p" args
  if names.isEmpty then showVariables "readonly " Variable.constant
  else declare (fun name s => s.makeConstant name) names

/-- Remembers what the variables of the function that runs were before. -/
def remember (name : Letters) (s : State) : State :=
  { s with locals := s.locals.map fun ls =>
      if ls.any (·.1 = name) then ls else ls ++ [(name, s.binding? name)] }

/-- Lets variables belong to the function that runs. -/
def makeLocal (args : List Letters) : Act Nat := do
  if (← state).locals.isNone then giveUp "not in a function".toList
  for a in args do
    let name := (settingOf a).1
    if isName name then update (remember name)
  declare (fun _ s => s) args

/-- Forgets variables or functions. -/
def unset (args : List Letters) : Act Nat := do
  let (flags, names) ← flagsOf "fv" args
  for name in names do
    if flags.contains 'f' then
      update fun s => { s with functions := s.functions.filter (·.1 ≠ name) }
    else
      if !isName name then giveUp (name ++ ": bad variable name".toList)
      if (← state).isConstant name then giveUp (name ++ ": is read only".toList)
      update fun s => s.unsetVariable name
  return 0

/-! ## Options and parameters -/

/-- The options of the shell: the letter, the name, and how to set it, if it changes anything. -/
def shellOptions : List (Char × String × Option (Bool → State → State)) :=
  [ ('e', "errexit", some fun on s => { s with stopsOnFailure := on }),
    ('f', "noglob", some fun on s => { s with keepsPatterns := on }),
    ('u', "nounset", some fun on s => { s with needsValues := on }),
    ('x', "xtrace", some fun on s => { s with shows := on }),
    ('I', "ignoreeof", none), ('i', "interactive", none), ('m', "monitor", none),
    ('v', "verbose", none), ('C', "noclobber", none), ('a', "allexport", none),
    ('b', "notify", none) ]

/-- Sets an option of the shell, if there is one that fulfils a condition. -/
def setOption? (on : Bool) (wanted : Char × String × Option (Bool → State → State) → Bool) :
    Option (State → State) :=
  (shellOptions.find? wanted).map fun o => match o.2.2 with
    | some f => f on
    | none => id

/-- Sets the options of some letters. -/
def setLetters (on : Bool) : Letters → Act Unit
  | [] => return
  | c :: rest => do
    match setOption? on (·.1 = c) with
    | none => giveUp ("Illegal option ".toList ++ (if on then '-' else '+') :: [c])
    | some f =>
      update f
      setLetters on rest

/-- Sets the options at the front of the arguments; yields the parameters that follow, if they are
to be set. -/
def setOptions : List Letters → Act (Option (List Letters))
  | [] => return none
  | ['-', '-'] :: rest => return some rest
  | ['-'] :: rest => return some rest
  | (sign :: 'o' :: []) :: name :: rest => do
    if sign = '-' || sign = '+' then
      match setOption? (sign = '-') fun o => o.2.1.toList = name with
      | none => giveUp ("Illegal option ".toList ++ [sign] ++ "o ".toList ++ name)
      | some f =>
        update f
        setOptions rest
    else return some ([sign, 'o'] :: name :: rest)
  | (sign :: c :: cs) :: rest => do
    if sign = '-' || sign = '+' then
      setLetters (sign = '-') (c :: cs)
      setOptions rest
    else return some ((sign :: c :: cs) :: rest)
  | rest => return some rest

/-- Sets options and parameters, or writes the variables. -/
def set (args : List Letters) : Act Nat := do
  if args.isEmpty then showVariables "" fun v => v.value.isSome
  else
    match ← setOptions args with
    | some parameters =>
      update fun s => { s with parameters }
      return 0
    | none => return 0

/-- Drops parameters. -/
def shift (args : List Letters) : Act Nat := do
  let n ← match args with
    | [] => pure 1
    | a :: _ => match Tool.number? a with
      | some n => pure n
      | none => giveUp ("Illegal number: ".toList ++ a)
  if (← state).parameters.length < n then giveUp "can't shift that many".toList
  update fun s => { s with parameters := s.parameters.drop n }
  return 0

/-! ## Folders -/

/-- The path of a folder. -/
def folderPath (a : Address) : Letters := lettersOfText (FileTree.addressText a)

/-- Goes to another folder. -/
def cd (args : List Letters) : Act Nat := do
  let (_, operands) ← flagsOf "LP" args
  let s ← state
  let back := operands.head? = some ['-']
  let goal := if back then (s.lookup? "OLDPWD".toList).getD []
    else operands.headD ((s.lookup? "HOME".toList).getD [])
  if goal.isEmpty then return 0
  let t ← files
  match t.locate (State.path goal), t.inspect (State.path goal) with
  | .ok a, .ok (.folder ..) =>
    update fun s =>
      let s := { s with folder := a }
      let s := (s.setVariable "OLDPWD".toList (folderPath t.current)).exportVariable "OLDPWD".toList
      (s.setVariable "PWD".toList (folderPath a)).exportVariable "PWD".toList
    if back then put (folderPath a ++ ['\n']) else return 0
  | _, _ => giveUp ("can't cd to ".toList ++ goal)

/-- Writes the current folder. -/
def pwd (args : List Letters) : Act Nat := do
  let _ ← flagsOf "LP" args
  put (folderPath (← state).folder ++ ['\n'])

end LintPool.Shell.Builtin
