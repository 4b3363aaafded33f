import LintPool.Shell.Run
import LintPool.Shell.Tool

set_option autoImplicit false

/-!
# Starting programs

A program is found by its name: a name with a slash is a path, any other is looked for in the
folders of a list. It is one of the programs that every system has, or a file that may be executed
and names its interpreter in its first line.

## Main definitions

* `LintPool.Launch` — what a program is started with.
* `LintPool.findProgram` — the file of a program.
* `LintPool.Launch.start` — starting it.
-/

namespace LintPool

/-- What a program is started with. -/
structure Launch where
  /-- The name or path of the program. -/
  program : String
  /-- Its arguments. -/
  arguments : List String
  /-- The variables that it gets besides those of the caller; a later one wins. -/
  settings : List (String × String)
  /-- Its current folder, if it is not the caller's. -/
  folder : Option Path
  deriving Repr

/-- The variables of a caller. -/
abbrev Environment := List (String × String)

namespace Environment

/-- The value of a variable. -/
def get? (e : Environment) (name : String) : Option String :=
  (e.find? (·.1 = name)).map (·.2)

/-- The environment with a variable set. -/
def set (e : Environment) (name value : String) : Environment :=
  if e.any (·.1 = name) then e.map fun v => if v.1 = name then (name, value) else v
  else e ++ [(name, value)]

/-- The folders in which programs are looked for. -/
def searchPath (e : Environment) : List String :=
  match e.get? "PATH" with
  | some p => p.splitOn ":"
  | none => ["/bin", "/usr/bin"]

/-- The home folder of the user: the administrator's, unless another one is set. -/
def home (e : Environment) : Path :=
  match e.get? "HOME" with
  | some h => if h.isEmpty then ⟨"/root"⟩ else ⟨h⟩
  | none => ⟨"/root"⟩

/-- The environment of a caller who has set nothing but where programs are looked for. -/
def usual : Environment :=
  [("HOME", "/root"), ("PATH", "/usr/local/sbin:/usr/local/bin:/usr/sbin:/usr/bin:/sbin:/bin")]

end Environment

/-- The folders with the programs that every system has. -/
def systemFolders : List String := ["/bin", "/usr/bin"]

/-- The names of the programs that every system has and that start or find others. -/
def starters : List String := ["sh", "dash", "env", "which"]

/-- Whether every system has a program of a name. -/
def isSystemProgram (name : String) : Bool := starters.contains name || (Shell.tool? name).isSome

/-- The name of the program that every system has at a path. -/
def systemProgram? (path : String) : Option String :=
  let name := String.ofList (path.toList.reverse.takeWhile (· ≠ '/')).reverse
  if systemFolders.any (fun f => f ++ "/" ++ name = path) && isSystemProgram name then some name
  else none

/-- What is at a path. -/
inductive Executable where
  /-- A program that every system has. -/
  | system (name : String)
  /-- A file. -/
  | file (content : Bytes)
  deriving Repr

/-- What can be executed at a path. -/
def executableAt (t : FileTree) (path : String) : Except AccessError Executable :=
  match t.inspect ⟨path⟩ with
  | .ok (.file content _ true) => .ok (.file content)
  | .ok _ => .error .denied
  | .error e =>
    match systemProgram? path with
    | some name => .ok (.system name)
    | none => .error e

/-- The path of a program in the folders of a list: the first that can be executed. -/
def findIn (t : FileTree) (folders : List String) (name : String) : Option String :=
  (folders.map fun f => if f.isEmpty then name else (Path.join ⟨f⟩ ⟨name⟩).text).find? fun p =>
    (executableAt t p).isOk

/-- The path of a program that is called by a name, and what is there. -/
def findProgram (t : FileTree) (folders : List String) (name : String) :
    Except AccessError (String × Executable) :=
  if name.toList.contains '/' then (executableAt t name).map fun x => (name, x)
  else if name.isEmpty then .error .missing
  else match findIn t folders name with
    | some p => (executableAt t p).map fun x => (p, x)
    | none => .error .missing

/-- The interpreter that a file names in its first line, with its argument if there is one. -/
def interpreter? (content : Bytes) : Option (Shell.Letters × Option Shell.Letters) :=
  match content with
  | 0x23 :: 0x21 :: rest =>
    let line := Shell.lettersOf (rest.takeWhile (· ≠ 0x0A))
    let blank := fun c : Char => c = ' ' || c = '\t' || c = '\r'
    let line := line.dropWhile blank
    let program := line.takeWhile fun c => !blank c
    let argument := (line.drop program.length).dropWhile blank
    let argument := (argument.reverse.dropWhile blank).reverse
    some (program, if argument.isEmpty then none else some argument)
  | _ => none

/-! ## Shells -/

/-- How a shell is told what to run. -/
structure ShellCall where
  /-- The options that it starts with. -/
  settings : List (Shell.State → Shell.State)
  /-- Whether the first word is the script. -/
  isCommand : Bool
  /-- Whether the script is read from the input. -/
  fromInput : Bool
  /-- The words after the options. -/
  words : List Shell.Letters

/-- Reads the letters of an option of a shell; nothing if one of them is unknown. -/
def ShellCall.withLetters? (on : Bool) (call : ShellCall) : Shell.Letters → Except Char ShellCall
  | [] => .ok call
  | c :: rest =>
    if c = 'c' then withLetters? on { call with isCommand := true } rest
    else if c = 's' then withLetters? on { call with fromInput := true } rest
    else match Shell.Builtin.setOption? on (·.1 = c) with
      | some f => withLetters? on { call with settings := call.settings ++ [f] } rest
      | none => .error c

/-- Reads the arguments of a shell; an option that is unknown is an error. -/
def ShellCall.ofArguments (call : ShellCall) : List Shell.Letters → Except Shell.Letters ShellCall
  | ['-', '-'] :: rest => .ok { call with words := rest }
  | ['-'] :: rest => .ok { call with words := rest }
  | ('-' :: options) :: rest =>
    match call.withLetters? true options with
    | .ok call => ofArguments call rest
    | .error c => .error ['-', c]
  | ('+' :: options) :: rest =>
    match call.withLetters? false options with
    | .ok call => ofArguments call rest
    | .error c => .error ['+', c]
  | rest => .ok { call with words := rest }

/-- The variables that a shell starts with besides those that it gets. -/
def ownVariables (folder : Address) : List Shell.Variable :=
  let plain := fun (name value : String) => ⟨name.toList, some value.toList, false, false⟩
  [ plain "IFS" " \t\n", plain "OPTIND" "1", plain "PS1" "# ", plain "PS2" "> ", plain "PS4" "+ ",
    plain "PPID" "1",
    ⟨"PWD".toList, some (Shell.Builtin.folderPath folder), true, false⟩ ]

/-- The state that a shell starts in. -/
def shellState (name : Shell.Letters) (parameters : List Shell.Letters)
    (environment : List (Shell.Letters × Shell.Letters)) (folder : Address) : Shell.State where
  name
  parameters
  bindings :=
    let own := ownVariables folder
    own ++ (environment.filter fun v => !own.any (·.name = v.1) && Shell.isName v.1).map
      fun v => ⟨v.1, some v.2, true, false⟩
  functions := []
  status := 0
  outputStatus := none
  speaker := []
  stopsOnFailure := false
  excused := false
  needsValues := false
  keepsPatterns := false
  shows := false
  traps := []
  loops := 0
  locals := none
  jobs := []
  line := 0
  folder
  input := .outside
  outlets := [(1, .sink .output), (2, .sink .errors)]

/-- Everything that a program can read, read in at most `fuel` rounds. -/
def readScript (fuel : Nat) : Routine Shell.Letters :=
  return Shell.lettersOf (← Shell.Tool.readAll fuel [])

/-- A shell that cannot start since something is wrong with its arguments. -/
def misusedShell (name what : Shell.Letters) : Routine Ending := do
  Routine.write .errors (Shell.bytesOf (name ++ ": 0: ".toList ++ what ++ ['\n']))
  return .exited 2

/-- Runs a shell with arguments. -/
def runShell (programs : Shell.Programs) (depth : Nat) (name : Shell.Letters)
    (arguments : List Shell.Letters) (environment : List (Shell.Letters × Shell.Letters))
    (folder : Address) : Routine Ending := do
  match ShellCall.ofArguments ⟨[], false, false, []⟩ arguments with
  | .error option => misusedShell name ("Illegal option ".toList ++ option)
  | .ok call =>
    let e := Shell.engine programs depth
    let run := fun (name : Shell.Letters) parameters script =>
      let start := shellState name parameters environment folder
      Shell.Act.inOwnShell (Shell.toTheEnd e (e.script script))
        (call.settings.foldl (fun s f => f s) start)
    match call.isCommand, call.words with
    | true, [] => misusedShell name "-c requires an argument".toList
    | true, script :: words => run (words.headD name) words.tail script
    | false, [] => run name [] (← readScript depth)
    | false, file :: parameters =>
      if call.fromInput then run name (file :: parameters) (← readScript depth)
      else match ((← Routine.files).seenAt folder).read (Shell.State.path file) with
        | .ok content => run file parameters (Shell.lettersOf content)
        | .error _ =>
          misusedShell name ("cannot open ".toList ++ file ++ ": No such file".toList)

/-! ## Starting -/

/-- The folders in which a program with these variables looks for others. -/
def searchFolders (environment : List (Shell.Letters × Shell.Letters)) : List String :=
  Environment.searchPath (environment.map fun v => (Shell.textOf v.1, Shell.textOf v.2))

/-- The path of the program that a name calls. -/
def findPath (name : Shell.Letters) (environment : List (Shell.Letters × Shell.Letters))
    (t : FileTree) : Option Shell.Letters :=
  (findProgram t (searchFolders environment) (Shell.textOf name)).toOption.map fun p =>
    Shell.lettersOfText p.1

/-- Starts the program that the arguments of `env` name, with the variables that they set; without
one, writes the variables. -/
def runWithVariables (start : Shell.Surrounding → Except AccessError (Routine Ending))
    (s : Shell.Surrounding) : Routine Ending := do
  let (cleared, rest) := match s.arguments with
    | ['-', 'i'] :: rest => (true, rest)
    | rest => (false, rest)
  let isSetting := fun a : Shell.Letters => a.contains '='
  let given := (rest.takeWhile isSetting).map fun a =>
    (a.takeWhile (· ≠ '='), (a.dropWhile (· ≠ '=')).tail)
  let kept := if cleared then []
    else s.environment.filter fun v => !given.any (·.1 = v.1)
  match rest.dropWhile isSetting with
  | [] => Shell.Tool.printenv { s with arguments := [], environment := kept ++ given }
  | name :: arguments =>
    match start { s with name, arguments, environment := kept ++ given } with
    | .ok r => r
    | .error e =>
      Shell.Tool.complain { s with name := "env".toList }
        s!"'{Shell.textOf name}': {Shell.Tool.wording e}"
      return .exited (if e.isAbsence then 127 else 126)

/-- Writes the paths of programs. -/
def which (t : FileTree) (s : Shell.Surrounding) : Routine Ending := do
  let mut code := 0
  for name in s.arguments do
    match findPath name s.environment t with
    | some path => Shell.Tool.printLine path
    | none => code := 1
  return .exited code

/-- Starts a program for somebody whose folder it gets; programs that start programs are nested at
most `nesting` times. -/
def startNested (depth : Nat) : (nesting : Nat) → Shell.Letters → List Shell.Letters →
    List (Shell.Letters × Shell.Letters) → Address → FileTree → Except AccessError (Routine Ending)
  | 0, _, _, _, _, _ => .error .missing
  | nesting + 1, name, arguments, environment, folder, t =>
    let system := fun (called : String) (name : Shell.Letters) arguments =>
      if called = "sh" || called = "dash" then
        .ok (runShell ⟨findPath, startNested depth nesting⟩ depth name arguments environment folder)
      else if called = "env" then
        .ok (runWithVariables (fun s =>
          startNested depth nesting s.name s.arguments s.environment s.folder t)
          ⟨name, arguments, environment, folder⟩)
      else if called = "which" then .ok (which t ⟨name, arguments, environment, folder⟩)
      else match Shell.tool? called with
        | some tool => .ok (tool ⟨name, arguments, environment, folder⟩)
        | none => .error .missing
    match findProgram t (searchFolders environment) (Shell.textOf name) with
    | .error e => .error e
    | .ok (_, .system called) => system called name arguments
    | .ok (path, .file content) =>
      match interpreter? content with
      | none => .error .badFormat
      | some (program, argument) =>
        let arguments := argument.toList ++ Shell.lettersOfText path :: arguments
        match systemProgram? (Shell.textOf program) with
        | some called => system called program arguments
        | none => startNested depth nesting program arguments environment folder t

/-- The deepest nesting of commands, rounds of loops included. -/
def maxDepth : Nat := 1000000

/-- The deepest nesting of programs. -/
def maxNesting : Nat := 100

/-- Why a program cannot be started. -/
inductive LaunchError where
  /-- Something that it is to be given has a null character. -/
  | containsNul
  /-- It cannot be reached or used. -/
  | access (e : AccessError)
  deriving Repr, DecidableEq

/-- The wording of a launch error. -/
def LaunchError.message : LaunchError → String
  | .containsNul => "nul byte found in provided data"
  | .access e => e.message

namespace Launch

/-- Whether something that a program is to be given has a null character. -/
def hasNul (l : Launch) : Bool :=
  (l.program :: l.arguments ++ l.folder.toList.map Path.text
    ++ l.settings.flatMap fun v => [v.1, v.2]).any fun s => s.toList.contains '\x00'

/-- The address of the folder that a program starts in. -/
def startFolder (l : Launch) (t : FileTree) : Except AccessError Address :=
  match l.folder with
  | none => .ok t.current
  | some f =>
    match t.locate f, t.inspect f with
    | .ok a, .ok n => if n.isFolder then .ok a else .error .notFolder
    | .error e, _ => .error e
    | _, .error e => .error e

/-- Starts a program. -/
def start (l : Launch) (environment : Environment) (t : FileTree) :
    Except LaunchError (Routine Ending) :=
  if l.hasNul then .error .containsNul
  else match l.startFolder t with
    | .error e => .error (.access e)
    | .ok folder =>
      let given := l.settings.foldl (fun e v => e.set v.1 v.2) environment
      match startNested maxDepth maxNesting (Shell.lettersOfText l.program)
          (l.arguments.map Shell.lettersOfText)
          (given.map fun v => (Shell.lettersOfText v.1, Shell.lettersOfText v.2)) folder
          (t.seenAt folder) with
      | .ok r => .ok r
      | .error e => .error (.access e)

end Launch

end LintPool
