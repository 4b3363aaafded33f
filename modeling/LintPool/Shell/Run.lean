import LintPool.Shell.Builtin
import LintPool.Shell.Redirect

set_option autoImplicit false

/-!
# Running commands

## Main definitions

* `LintPool.Shell.runCommand` — runs a command.
* `LintPool.Shell.runScript` — runs a script, line by line.
* `LintPool.Shell.engine` — the shell whose commands are nested at most so deeply.
-/

namespace LintPool.Shell

/-! ## Simple commands -/

/-- Sets variables; yields their values. -/
def setAll (e : Engine) : List (Letters × Word) → Act (List (Letters × Letters))
  | [] => return []
  | (name, w) :: rest => do
    let value ← textOfWord e w
    assign name value
    return (name, value) :: (← setAll e rest)

/-- Shows a command before it runs, if the shell shows commands. -/
def showCommand (settings : List (Letters × Letters)) (fields : List Letters) : Act Unit := do
  if (← state).shows then
    let words := settings.map (fun (name, value) => name ++ '=' :: value) ++ fields
    let _ ← say 2 ("+ ".toList ++ [' '].intercalate words ++ ['\n'])

/-- Does something with variables that hold only meanwhile, and that programs get; it is told their
values. -/
def withSettings (e : Engine) (settings : List (Letters × Word))
    (act : List (Letters × Letters) → Act Nat) : Act Nat :=
  if settings.isEmpty then act []
  else
    keeping (fun before s =>
        settings.foldl (fun s p => s.restoreVariable p.1 (before.binding? p.1)) s) do
      let values ← setAll e settings
      update fun s => settings.foldl (fun s p => s.exportVariable p.1) s
      act values

/-- Calls a function with parameters. -/
def call (e : Engine) (body : Command) (parameters : List Letters) : Act Nat := do
  let back := fun before now : State =>
    let now := (now.locals.getD []).foldl (fun s v => s.restoreVariable v.1 v.2) now
    { now with parameters := before.parameters, loops := before.loops, locals := before.locals }
  keeping back do
    update fun s => { s with parameters, loops := 0, locals := some [] }
    tryCatch (e.command body) fun
      | .return code => return code
      | h => halt h

/-- Starts a program; how it ended. A program that cannot be started is complained of. -/
def runProgram (e : Engine) (name : Letters) (args : List Letters) : Act Ending := do
  let s ← state
  let t ← files
  let start := fun name args => e.programs.start name args s.environment s.folder t
  let started := match start name args with
    | .error .badFormat =>
      let path := (e.programs.find name s.environment t).getD name
      start "/bin/sh".toList (path :: args)
    | r => r
  match started with
  | .ok r => host r
  | .error err =>
    if name.isEmpty then
      complain ": Permission denied".toList
      return .exited 127
    else if err.isAbsence then
      complain (name ++ ": not found".toList)
      return .exited 127
    else
      complain (name ++ ": ".toList ++ (Tool.wording err).toList)
      return .exited 126

/-- Runs a program and waits for it. -/
def runAndReport (e : Engine) (name : Letters) (args : List Letters) : Act Nat := do
  let ending ← runProgram e name args
  if let .killed signal := ending then reportSignal signal
  return codeOf ending

/-- Runs a command as if no function had its name. -/
def runDirectly (e : Engine) (args : List Letters) : Act Nat := do
  match args with
  | [] => return 0
  | ['-', 'v'] :: rest => named rest (locate e)
  | ['-', 'V'] :: rest => named rest fun name => describe e [name]
  | ['-', 'p'] :: rest => run rest
  | ['-', '-'] :: rest => run rest
  | a :: rest =>
    if a.head? = some '-' then
      complain ("command: Illegal option ".toList ++ a.take 2)
      return 2
    else run (a :: rest)
where
  /-- Does something with the first of some names. -/
  named (names : List Letters) (act : Letters → Act Nat) : Act Nat :=
    match names with
    | [] => return 0
    | name :: _ => act name
  /-- Runs the command. -/
  run (args : List Letters) : Act Nat := do
    match args with
    | [] => return 0
    | name :: args =>
      match builtin? e name with
      | some b => runBuiltin b false args
      | none => runAndReport e name args

/-- Runs the command that some fields make up. -/
def runFields (e : Engine) (fields : List Letters) : Act Nat := do
  match fields with
  | [] => return 0
  | name :: args =>
    match (← state).functions.find? (·.1 = name), builtin? e name with
    | some (_, body), _ => call e body args
    | none, some b => runBuiltin b b.isSpecial args
    | none, none =>
      if name = "command".toList then runDirectly e args else runAndReport e name args

/-- Lets go of where the whole program writes, if no descriptor leads there any more. -/
def letGo (before : State) (k : Sink) : Act Unit := do
  let leads := fun s : State => s.outlets.any (·.2 = .sink k)
  if leads before && !leads (← state) then Act.outside (.close k fun _ => .done ())

/-- Leaves the shell to a program, or only carries out redirections. -/
def become (e : Engine) (settings : List (Letters × Word)) (args : List Letters)
    (rs : List Redirection) : Act Nat := do
  let before ← state
  if !(← redirectAll e rs) then halt .fault
  letGo before .output
  letGo before .errors
  match args with
  | [] =>
    let _ ← setAll e settings
    return 0
  | name :: args =>
    withSettings e settings fun values => do
      showCommand values ("exec".toList :: name :: args)
      match ← speakingAs "exec".toList (runProgram e name args) with
      | .exited code =>
        if code ≠ 126 && code ≠ 127 then update fun s => { s with traps := [] }
        halt (.exit code)
      | .killed signal => halt (.killed signal)

/-- Runs a simple command. -/
def runSimple (e : Engine) (settings : List (Letters × Word)) (words : List Word)
    (rs : List Redirection) : Act Nat := do
  update fun s => { s with outputStatus := none }
  let fields ← fieldsOf e words
  match fields with
  | [] =>
    redirected e false rs do
      let values ← setAll e settings
      if !values.isEmpty then showCommand values []
      return (← state).outputStatus.getD 0
  | name :: args =>
    if name = "exec".toList then become e settings args rs
    else if (builtin? e name).any Builtin.isSpecial then
      redirected e true rs do
        let values ← setAll e settings
        showCommand values fields
        runFields e fields
    else
      redirected e false rs <| withSettings e settings fun values => do
        showCommand values fields
        runFields e fields

/-! ## Commands -/

/-- Takes note of the code that a command has ended with. -/
def settle (code : Nat) : Act Nat := do
  update fun s => { s with status := code }
  return code

/-- The same, and the shell ends if the command has failed and failures end the shell. -/
def checked (code : Nat) : Act Nat := do
  let s ← state
  update fun s => { s with status := code }
  if code ≠ 0 && s.stopsOnFailure && !s.excused then halt (.exit code)
  return code

/-- Runs commands one after another. -/
def runAll (e : Engine) : List Command → Act Nat
  | [] => settle 0
  | [c] => e.command c
  | c :: rest => do
    let _ ← e.command c
    runAll e rest

/-- Does something whose failure does not end the shell. -/
def asCondition {α : Type} (act : Act α) : Act α :=
  keeping (fun before s => { s with excused := before.excused }) do
    update fun s => { s with excused := true }
    act

/-- Takes note of how a shell of its own has ended; a signal in there meant this shell. -/
def afterOwn (e : Engine) : Ending → Act Nat
  | .exited code => checked code
  | .killed signal => signalled e signal

/-- The stages of a pipeline as one program: the first reads where the shell does, each later one
what the one before it writes. -/
def joinStages (e : Engine) (s : State) (writer : Option (Routine Unit)) :
    List Command → Routine Ending
  | [] => .done (.exited 0)
  | c :: rest =>
    let own := { s with input := if writer.isSome then .outside else s.input }
    let own := if rest.isEmpty then own
      else { own with outlets := (1, .sink .output) :: own.outlets.filter (·.1 ≠ 1) }
    let stage := ownShell e (e.command c) own
    let stage := match writer with
      | some w => stage.readingFrom [] w
      | none => stage
    match rest with
    | [] => stage
    | rest => joinStages e s (some (stage.andThen fun _ => .done ())) rest

/-- What a round of a loop leads to. -/
inductive Round where
  /-- The next round. -/
  | onward
  /-- The end of the loop. -/
  | over

/-- Does something in a loop; whether the loop goes on, and the code. -/
def inLoop (act : Act Nat) : Act (Round × Nat) :=
  keeping (fun before s => { s with loops := before.loops }) do
    update fun s => { s with loops := s.loops + 1 }
    tryCatch ((fun n => (Round.onward, n)) <$> act) fun
      | .leave n => if n ≤ 1 then return (.over, 0) else halt (.leave (n - 1))
      | .again n => if n ≤ 1 then return (.onward, 0) else halt (.again (n - 1))
      | h => halt h

/-- Runs the body of a loop for each word. -/
def runEach (e : Engine) (name : Letters) (body : List Command) (code : Nat) :
    List Letters → Act Nat
  | [] => settle code
  | w :: rest => do
    assign name w
    match ← inLoop (runAll e body) with
    | (.onward, code) => runEach e name body code rest
    | (.over, code) => settle code

/-- Runs a loop of which the last round ended with a code. -/
def runLoop (e : Engine) (untilSuccess : Bool) (condition body : List Command) (code : Nat) :
    Act Nat := do
  Act.outside (.work fun _ => .done ())
  match ← inLoop (asCondition (runAll e condition)) with
  | (.over, code) => settle code
  | (.onward, answer) =>
    if (answer = 0) = untilSuccess then settle code
    else match ← inLoop (runAll e body) with
      | (.onward, code) => e.loop untilSuccess condition body code
      | (.over, code) => settle code

/-- The commands after the first pattern that matches a text. -/
def chosen (e : Engine) (subject : Letters) : List (List Word × List Command) → Act (List Command)
  | [] => return []
  | (patterns, body) :: rest => do
    if ← fits patterns then return body else chosen e subject rest
where
  /-- Whether one of some patterns matches. -/
  fits : List Word → Act Bool
    | [] => return false
    | w :: rest => do
      if matchesPattern (← patternOfWord e w) subject then return true else fits rest

/-- The number of the first job. -/
def firstJob : Nat := ownNumber + 1

/-- Puts off a command that nobody waits for. -/
def putOff (e : Engine) (c : Command) : Act Nat := do
  let s ← state
  let course := ownShell e (e.command c) { s with input := .bytes [] }
  update fun s => { s with jobs := s.jobs ++ [⟨firstJob + s.jobs.length, course, none⟩] }
  settle 0

/-- Runs a command. -/
def runCommand (e : Engine) : Command → Act Nat
  | .simple line settings words rs => do
    update fun s => { s with line }
    checked (← runSimple e settings words rs)
  | .pipeline stages => do
    afterOwn e (← Act.outside (joinStages e (← state) none stages))
  | .negation c => do
    settle (if (← asCondition (e.command c)) = 0 then 1 else 0)
  | .conjunction a b => do
    let code ← asCondition (e.command a)
    if code = 0 then e.command b else return code
  | .disjunction a b => do
    let code ← asCondition (e.command a)
    if code = 0 then return code else e.command b
  | .background c => putOff e c
  | .group body => runAll e body
  | .subshell body => do
    afterOwn e (← Act.outside (ownShell e (runAll e body) (← state)))
  | .branch condition body otherwise => do
    if (← asCondition (runAll e condition)) = 0 then runAll e body else runAll e otherwise
  | .loop untilSuccess condition body => e.loop untilSuccess condition body 0
  | .each name words body => do
    let ws ← match words with
      | some ws => fieldsOf e ws
      | none => pure (← state).parameters
    runEach e name body 0 ws
  | .choice subject arms => do
    let cs ← textOfWord e subject
    runAll e (← chosen e cs arms)
  | .function name body => do
    update fun s => { s with functions := (name, body) :: s.functions.filter (·.1 ≠ name) }
    settle 0
  | .redirected body rs => do settle (← redirected e false rs (e.command body))

/-- Runs the lines of a script from some tokens on, at most `fuel`. -/
def runLines (e : Engine) : (fuel : Nat) → (code : Nat) → List Token → Act Nat
  | 0, code, _ => return code
  | fuel + 1, code, tokens => do
    match nextLine tokens with
    | .error f =>
      update fun s => { s with line := (tokens.getLast?.map Token.line).getD 1 }
      giveUp f.message.toList
    | .ok none => return code
    | .ok (some (commands, rest)) =>
      let code ← runAll e commands
      runLines e fuel code rest

/-- Runs a script, line by line. -/
def runScript (e : Engine) (script : Letters) : Act Nat :=
  let tokens := tokensOf script
  runLines e (tokens.length + 1) 0 tokens

/-- The shell whose commands are nested at most so deeply, rounds of loops included. -/
def engine (programs : Programs) : (depth : Nat) → Engine
  | 0 =>
    { command := fun _ => halt .fault
      loop := fun _ _ _ _ => halt .fault
      script := fun _ => halt .fault
      marks := fun _ => return []
      programs }
  | depth + 1 =>
    { command := fun c => runCommand (engine programs depth) c
      loop := fun u c b code => runLoop (engine programs depth) u c b code
      script := fun cs => runScript (engine programs depth) cs
      marks := fun w => patternOfWord (engine programs depth) w
      programs }

end LintPool.Shell
