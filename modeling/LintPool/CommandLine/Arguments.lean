import LintPool.Record.Manager
import LintPool.Path

set_option autoImplicit false

/-!
# The arguments of the program

The program has three subcommands. Options may stand before or after what they do not belong to;
three of them are known to the program and to every subcommand alike, and then the inner value
wins. An option's value follows it, or is attached to it; a value that follows is only looked at
when the next argument has been recognised, so an unknown argument is reported first.

## Main definitions

* `LintPool.Argument` — what can be given, and how it is written.
* `LintPool.ArgumentError` — what can be wrong.
* `LintPool.ArgumentReader` — how far the arguments of one level are read.
* `LintPool.Invocation` — what the arguments say.
* `LintPool.Invocation.ofArguments` — reading them.
-/

namespace LintPool

/-- What can be given on the command line. -/
inductive Argument where
  | config
  | workerScript
  | verbose
  | help
  | version
  | file
  | fix
  | workspace
  | stylelintPath
  | packageManager
  | customSyntax
  | configFile
  | manager
  deriving Repr, DecidableEq

/-- What kind of value an argument takes. -/
inductive ValueKind where
  /-- None. -/
  | switch
  /-- A path, which is not empty. -/
  | path
  /-- Any text. -/
  | text
  /-- The name of a package manager. -/
  | manager
  deriving Repr, DecidableEq

namespace Argument

/-- The kind of value that an argument takes. -/
def kind : Argument → ValueKind
  | .verbose | .help | .version | .fix => .switch
  | .customSyntax => .text
  | .packageManager | .manager => .manager
  | .config | .workerScript | .file | .workspace | .stylelintPath | .configFile => .path

/-- The long name of an option. -/
def longName? : Argument → Option String
  | .config => some "config"
  | .workerScript => some "worker-script"
  | .verbose => some "verbose"
  | .help => some "help"
  | .version => some "version"
  | .fix => some "fix"
  | .workspace => some "workspace"
  | .stylelintPath => some "stylelint-path"
  | .packageManager => some "package-manager"
  | .customSyntax => some "custom-syntax"
  | .configFile => some "config-file"
  | .file | .manager => none

/-- The letter of an option. -/
def letter? : Argument → Option Char
  | .config => some 'c'
  | .verbose => some 'v'
  | .help => some 'h'
  | .version => some 'V'
  | .workspace => some 'w'
  | _ => none

end Argument

/-- What can be wrong with the arguments, or asked for instead of work. -/
inductive ArgumentError where
  | displayHelp
  | displayVersion
  | unknownArgument
  | invalidSubcommand
  | missingSubcommand
  | missingRequiredArgument
  | invalidValue
  | valueValidation
  | tooManyValues
  | argumentConflict
  | nothingGiven
  deriving Repr, DecidableEq

/-- The name of an error. -/
def ArgumentError.name : ArgumentError → String
  | .displayHelp => "DisplayHelp"
  | .displayVersion => "DisplayVersion"
  | .unknownArgument => "UnknownArgument"
  | .invalidSubcommand => "InvalidSubcommand"
  | .missingSubcommand => "MissingSubcommand"
  | .missingRequiredArgument => "MissingRequiredArgument"
  | .invalidValue => "InvalidValue"
  | .valueValidation => "ValueValidation"
  | .tooManyValues => "TooManyValues"
  | .argumentConflict => "ArgumentConflict"
  | .nothingGiven => "DisplayHelpOnMissingArgumentOrSubcommand"

/-- The exit code for an error: showing help or the version is no failure. -/
def ArgumentError.exitCode : ArgumentError → Nat
  | .displayHelp | .displayVersion => 0
  | _ => 2

/-- The program itself, or one of its subcommands. -/
inductive Level where
  | program
  | lint
  | resolve
  | globalPath
  deriving Repr, DecidableEq

namespace Level

/-- The subcommand of a name. -/
def subcommand? (name : String) : Option Level :=
  match name with
  | "lint" => some .lint
  | "resolve" => some .resolve
  | "global-path" => some .globalPath
  | _ => none

/-- The options that every level knows. -/
def shared : List Argument := [.config, .workerScript, .verbose, .help]

/-- The options about what is linted. -/
def target : List Argument :=
  [.workspace, .stylelintPath, .packageManager, .customSyntax, .configFile]

/-- The options that a level knows. -/
def options : Level → List Argument
  | .program => .version :: shared
  | .lint => .fix :: target ++ shared
  | .resolve => target ++ shared
  | .globalPath => shared

/-- The argument without a name that a level takes. -/
def positional? : Level → Option Argument
  | .program => none
  | .lint => some .file
  | .resolve => some .file
  | .globalPath => some .manager

/-- Whether that argument has to be given. -/
def needsPositional : Level → Bool
  | .lint => true
  | .globalPath => true
  | _ => false

end Level

/-- How far the arguments of one level are read. -/
structure ArgumentReader where
  /-- What was given, with the values. -/
  given : List (Argument × String)
  /-- An argument whose value is still to be looked at, or still to come. -/
  pending : Option (Argument × Option String)
  /-- Whether the place of the argument without a name is taken. -/
  filled : Bool
  /-- Whether only arguments without a name follow. -/
  trailing : Bool
  deriving Repr, DecidableEq

namespace ArgumentReader

/-- Nothing is read yet. -/
def start : ArgumentReader := ⟨[], none, false, false⟩

/-- The value of an argument that was given. -/
def value? (r : ArgumentReader) (a : Argument) : Option String :=
  (r.given.find? (·.1 = a)).map (·.2)

/-- Whether a value is fit for an argument. -/
def check (a : Argument) (value : String) : Except ArgumentError Unit :=
  match a.kind with
  | .path => if value.isEmpty then .error .invalidValue else .ok ()
  | .manager => if (Manager.ofText? value).isSome then .ok () else .error .valueValidation
  | .switch => .ok ()
  | .text => .ok ()

/-- Notes the value of an argument, which must not have one yet. -/
def record (r : ArgumentReader) (a : Argument) (value : String) :
    Except ArgumentError ArgumentReader :=
  if (r.value? a).isSome then .error .argumentConflict
  else (check a value).map fun _ => { r with given := r.given ++ [(a, value)] }

/-- Looks at the value of the pending argument. -/
def settle (r : ArgumentReader) : Except ArgumentError ArgumentReader :=
  match r.pending with
  | none => .ok r
  | some (_, none) => .error .invalidValue
  | some (a, some value) => { r with pending := none }.record a value

/-- Whether the next argument is the value of the one before. -/
def awaits (r : ArgumentReader) : Bool :=
  match r.pending with
  | some (_, none) => !r.trailing
  | _ => false

/-- Takes an option with the value attached to it, if there is one. -/
def takeOption (r : ArgumentReader) (a : Argument) (attached : Option String) :
    Except ArgumentError ArgumentReader :=
  match r.settle with
  | .error e => .error e
  | .ok r =>
    match a with
    | .help => .error .displayHelp
    | .version => .error .displayVersion
    | _ =>
      match a.kind, attached with
      | .switch, _ => r.record a "true"
      | _, some value => r.record a value
      | _, none => .ok { r with pending := some (a, none) }

/-- Takes an option by its long name. -/
def takeLong (level : Level) (r : ArgumentReader) (name : String) (attached : Option String) :
    Except ArgumentError ArgumentReader :=
  match level.options.find? (·.longName? = some name) with
  | none => .error .unknownArgument
  | some a =>
    if a.kind = .switch && attached.isSome then .error .tooManyValues
    else r.takeOption a attached

/-- Takes options by their letters; what follows the letter of one that has a value is the value. -/
def takeLetters (level : Level) : List Char → ArgumentReader → Except ArgumentError ArgumentReader
  | [], r => .ok r
  | c :: rest, r =>
    match level.options.find? (·.letter? = some c) with
    | none => .error .unknownArgument
    | some a =>
      if a.kind = .switch then
        match r.takeOption a none with
        | .error e => .error e
        | .ok r => takeLetters level rest r
      else match rest with
        | [] => r.takeOption a none
        | '=' :: value => r.takeOption a (some (String.ofList value))
        | value => r.takeOption a (some (String.ofList value))

/-- Takes an argument without a name. -/
def takePositional (level : Level) (r : ArgumentReader) (value : String) :
    Except ArgumentError ArgumentReader :=
  match level.positional? with
  | some a =>
    if r.filled then .error .unknownArgument
    else r.settle.map fun r => { r with pending := some (a, some value), filled := true }
  | none =>
    if r.trailing && (value = "help" || (Level.subcommand? value).isSome) then
      .error .unknownArgument
    else .error .invalidSubcommand

/-- Takes an argument that is not a subcommand. -/
def take (level : Level) (r : ArgumentReader) (arg : String) :
    Except ArgumentError ArgumentReader :=
  if r.trailing then r.takePositional level arg
  else match arg.toList with
    | ['-', '-'] => .ok { r with trailing := true }
    | '-' :: '-' :: cs =>
      let name := String.ofList (cs.takeWhile (· ≠ '='))
      match cs.dropWhile (· ≠ '=') with
      | [] => r.takeLong level name none
      | _ :: value => r.takeLong level name (some (String.ofList value))
    | '-' :: c :: cs => takeLetters level (c :: cs) r
    | _ =>
      match r.pending with
      | some (a, none) => .ok { r with pending := some (a, some arg) }
      | _ => r.takePositional level arg

/-- Looks whether everything is there that a level needs. -/
def finish (level : Level) (r : ArgumentReader) : Except ArgumentError ArgumentReader :=
  match r.settle with
  | .error e => .error e
  | .ok r =>
    if level.needsPositional && !r.filled then .error .missingRequiredArgument else .ok r

/-- Takes the arguments of a subcommand. -/
def takeAll (level : Level) : List String → ArgumentReader → Except ArgumentError ArgumentReader
  | [], r => r.finish level
  | arg :: rest, r =>
    match r.take level arg with
    | .error e => .error e
    | .ok r => takeAll level rest r

/-- The error that asking for help about some subcommands comes to: there are none below these. -/
def helpFor : List String → ArgumentError
  | [] => .displayHelp
  | [name] =>
    if name = "help" || (Level.subcommand? name).isSome then .displayHelp else .invalidSubcommand
  | _ => .invalidSubcommand

/-- Takes the arguments of the program: its own, the subcommand, and the arguments of that. -/
def takeProgram : List String → ArgumentReader →
    Except ArgumentError (ArgumentReader × Level × ArgumentReader)
  | [], r =>
    match r.finish .program with
    | .error e => .error e
    | .ok r => .error (if r.given.isEmpty then .nothingGiven else .missingSubcommand)
  | arg :: rest, r =>
    if !r.trailing && !r.awaits && arg = "help" then .error (helpFor rest)
    else match if r.trailing || r.awaits then none else Level.subcommand? arg with
      | some level =>
        match takeAll level rest start with
        | .error e => .error e
        | .ok inner => (r.finish .program).map fun r => (r, level, inner)
      | none =>
        match r.take .program arg with
        | .error e => .error e
        | .ok r => takeProgram rest r

end ArgumentReader

/-- What is linted, and how. -/
structure Target where
  /-- The workspace folder; the current folder if there is none. -/
  workspace : Option Path
  /-- The linter package or entry point. -/
  stylelintPath : Option Path
  /-- The manager whose global modules are searched last. -/
  packageManager : Option Manager
  /-- The module of a custom syntax. -/
  customSyntax : Option String
  /-- The configuration file of the linter. -/
  configFile : Option Path
  deriving Repr, DecidableEq

/-- What the program is to do. -/
inductive Action where
  /-- Lint a file. -/
  | lint (file : Path) (fix : Bool) (target : Target)
  /-- Say which linter governs a file. -/
  | resolve (file : Option Path) (target : Target)
  /-- Say where a manager keeps global modules. -/
  | globalPath (manager : Manager)
  deriving Repr, DecidableEq

/-- What the arguments say. -/
structure Invocation where
  /-- What the program is to do. -/
  action : Action
  /-- The file of the settings. -/
  config : Option Path
  /-- The worker script to use in place of that of the settings. -/
  workerScript : Option Path
  /-- Whether to log more. -/
  verbose : Bool
  deriving Repr, DecidableEq

namespace Invocation

/-- The path given for an argument. -/
def path? (r : ArgumentReader) (a : Argument) : Option Path :=
  (r.value? a).map Path.mk

/-- The target that the arguments of a subcommand name. -/
def targetOf (r : ArgumentReader) : Target where
  workspace := path? r .workspace
  stylelintPath := path? r .stylelintPath
  packageManager := (r.value? .packageManager).bind Manager.ofText?
  customSyntax := r.value? .customSyntax
  configFile := path? r .configFile

/-- The action that the arguments of a level name. -/
def actionOf (r : ArgumentReader) : Level → Action
  | .lint => .lint ((path? r .file).getD ⟨""⟩) (r.value? .fix).isSome (targetOf r)
  | .globalPath => .globalPath (((r.value? .manager).bind Manager.ofText?).getD .npm)
  | _ => .resolve (path? r .file) (targetOf r)

/-- What the arguments say, the program's own name not among them. -/
def ofArguments (args : List String) : Except ArgumentError Invocation :=
  (ArgumentReader.takeProgram args .start).map fun (outer, level, inner) =>
    { action := actionOf inner level
      config := (path? inner .config).or (path? outer .config)
      workerScript := (path? inner .workerScript).or (path? outer .workerScript)
      verbose := (inner.value? .verbose).isSome || (outer.value? .verbose).isSome }

end Invocation

end LintPool
