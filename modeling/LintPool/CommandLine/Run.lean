import LintPool.CommandLine.Arguments
import LintPool.Config.Load
import LintPool.Host.Basic
import LintPool.Json.Printer
import LintPool.Service.Basic

set_option autoImplicit false

/-!
# Running the program

The program does one thing and ends: it lints a file, says which linter governs one, or says where
a package manager keeps global modules. What it found is printed as an indented record; a failure
is printed with its cause, if it has one. All workers are disposed of before it ends.

## Main definitions

* `LintPool.Failure` — why nothing was found, and its wording.
* `LintPool.Printed` — what is printed, and the exit code.
* `LintPool.Invocation.run` — doing what the arguments say.
* `LintPool.runProgram` — the program.
-/

namespace LintPool

/-- Why the text of a file cannot be had. -/
inductive TextFault where
  /-- The file cannot be read. -/
  | access (e : AccessError)
  /-- What is in it is no text. -/
  | notText
  deriving Repr, DecidableEq

/-- The wording of a text fault. -/
def TextFault.message : TextFault → String
  | .access e => e.message
  | .notText => "stream did not contain valid UTF-8"

/-- The text of a file. -/
def FileTree.readText (t : FileTree) (p : Path) : Except TextFault String :=
  match t.read p with
  | .error e => .error (.access e)
  | .ok content =>
    match Text.decode content with
    | .ok s => .ok s
    | .error _ => .error .notText

/-- Why the program fails. -/
inductive Failure where
  /-- The file to lint cannot be read. -/
  | unreadable (file : Path) (fault : TextFault)
  /-- The package manager does not say where it keeps global modules. -/
  | unknownDirectory (m : Manager)
  /-- The service fails. -/
  | service (e : ServiceError)
  deriving Repr, DecidableEq

namespace Failure

/-- The wording of a failure. -/
def message : Failure → String
  | .unreadable file _ => s!"reading {file.text}"
  | .unknownDirectory m => s!"could not determine the global module directory for {m.name}"
  | .service e => e.message

/-- The wording of what is behind a failure. -/
def cause? : Failure → Option String
  | .unreadable _ fault => some fault.message
  | .unknownDirectory _ => none
  | .service (.search e) => some e.cause.message
  | .service (.worker _) => none

/-- What is printed for a failure. -/
def report (f : Failure) : String :=
  match f.cause? with
  | none => s!"Error: {f.message}\n"
  | some cause => s!"Error: {f.message}\n\nCaused by:\n    {cause}\n"

end Failure

/-- What is printed, and the exit code. -/
structure Printed where
  /-- What is printed to the output. -/
  output : String
  /-- What is printed to the errors. -/
  errors : String
  /-- The exit code. -/
  code : Nat
  deriving Repr, DecidableEq

/-- What a result prints. -/
def Printed.ofResult : Except Failure String → Printed
  | .ok output => ⟨output, "", 0⟩
  | .error f => ⟨"", f.report, 1⟩

/-- What is printed for a finding: its record, indented. -/
def printFinding (f : Option Finding) : String :=
  (f.elim .null fun f => Json.obj f.declared).renderIndented ++ "\n"

/-- What a service asks of a host. -/
def Host.surroundings : Surroundings Host where
  world := Host.world
  files := fun h => h.files
  ask := fun m h =>
    let (transcript, files) := m.run h.environment h.files
    (transcript, { h with files })
  work := fun task params id h => h.call id task params

namespace Invocation

/-- The settings: those of the file, with the worker script that the arguments name. -/
def settings (i : Invocation) (environment : Environment) (t : FileTree) : Settings :=
  let s := Settings.load t (i.config.getD (settingsFile environment.home))
  { s with workerScript := i.workerScript.or s.workerScript }

/-- The absolute path of the current folder. -/
def currentFolder (t : FileTree) : Path := ⟨FileTree.addressText t.current⟩

/-- The absolute path for a path that was given. -/
def absolute (t : FileTree) (p : Path) : Path := p.absolute (currentFolder t)

/-- The workspace folder of a target. -/
def workspaceOf (t : FileTree) (g : Target) : Path :=
  (g.workspace.map (absolute t)).getD (currentFolder t)

/-- The options that a target gives. -/
def optionsOf (t : FileTree) (g : Target) : RunnerOptions :=
  { RunnerOptions.blank with
    stylelintPath := g.stylelintPath.map (absolute t)
    packageManager := g.packageManager
    customSyntax := g.customSyntax
    configFile := g.configFile.map (absolute t) }

/-- Lints a file. -/
def lint (file : Path) (fix : Bool) (g : Target) (v : Service) (h : Host) :
    Except Failure String × Service × Host :=
  let file := absolute h.files file
  match h.files.readText file with
  | .error fault => (.error (.unreadable file fault), v, h)
  | .ok code =>
    let options := { LintOptions.ofCode code (some file) with fix }
    let (result, v, h) :=
      v.lint Host.surroundings ⟨workspaceOf h.files g, options, optionsOf h.files g⟩ h
    ((result.mapError .service).map printFinding, v, h)

/-- Says which linter governs a file. -/
def resolve (file : Option Path) (g : Target) (v : Service) (h : Host) :
    Except Failure String × Service × Host :=
  let t := h.files
  let request : ResolveRequest :=
    ⟨workspaceOf t g, none, file.map (absolute t), optionsOf t g⟩
  let (result, v, h) := v.resolve Host.surroundings request h
  ((result.mapError .service).map printFinding, v, h)

/-- Says where a package manager keeps global modules. -/
def globalPath (m : Manager) (v : Service) (h : Host) : Except Failure String × Service × Host :=
  match v.globalModules Host.surroundings m h with
  | (some directory, rest) => (.ok (directory.text ++ "\n"), rest)
  | (none, rest) => (.error (.unknownDirectory m), rest)

/-- Does what the arguments say, and disposes of all workers. -/
def run (i : Invocation) (environment : Environment) (t : FileTree) : Printed × FileTree :=
  let settings := i.settings environment t
  let host := { Host.start t ⟨0⟩ environment settings with tempo := .steady }
  let service := (Service.ofSettings settings).withGlobalModules
  let (result, service, host) := match i.action with
    | .lint file fix g => lint file fix g service host
    | .resolve file g => resolve file g service host
    | .globalPath m => globalPath m service host
  (.ofResult result, (service.shutDown Host.surroundings host).2.files)

end Invocation

/-- Runs the program with arguments: what it prints and the files that it leaves, unless the
arguments are wrong or ask for something else. -/
def runProgram (environment : Environment) (t : FileTree) (args : List String) :
    Except ArgumentError (Printed × FileTree) :=
  (Invocation.ofArguments args).map fun i => i.run environment t

end LintPool
