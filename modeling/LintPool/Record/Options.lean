import LintPool.Record.Fields
import LintPool.Record.Manager

set_option autoImplicit false

/-!
# The options of a request

## Main definitions

* `LintPool.RunnerOptions` — how the linter is found and called.
* `LintPool.LintOptions` — what is linted.
* `LintPool.LintRequest`, `LintPool.ResolveRequest` — what a client asks for.
* `LintPool.LintParams`, `LintPool.ResolveParams` — what is sent to a worker.
-/

namespace LintPool

/-- How the linter is found and called. -/
structure RunnerOptions where
  /-- The linter package or entry point, if the user names one. -/
  stylelintPath : Option Path
  /-- The manager whose global modules are searched last. -/
  packageManager : Option Manager
  /-- The module of a custom syntax. -/
  customSyntax : Option String
  /-- A configuration given in place. -/
  config : Option Json
  /-- The configuration file. -/
  configFile : Option Path
  /-- The folder that relative names in the configuration start from. -/
  configBasedir : Option Path
  deriving Repr, BEq

namespace RunnerOptions

/-- No option given. -/
def blank : RunnerOptions := ⟨none, none, none, none, none, none⟩

instance : Inhabited RunnerOptions := ⟨blank⟩

/-- The layout of the options. -/
def schema : Json.Schema RunnerOptions where
  name := "RunnerOptions"
  mayEndEarly := true
  blank := blank
  fields :=
    [ Json.optionalPath "stylelintPath" (·.stylelintPath) fun v r => { r with stylelintPath := v },
      Json.optionalField "packageManager" Manager.read Manager.write (·.packageManager)
        fun v r => { r with packageManager := v },
      Json.optionalField "customSyntax" (Json.asText .text) .str (·.customSyntax)
        fun v r => { r with customSyntax := v },
      Json.optionalField "config" .ok id (·.config) fun v r => { r with config := v },
      Json.optionalPath "configFile" (·.configFile) fun v r => { r with configFile := v },
      Json.optionalPath "configBasedir" (·.configBasedir)
        fun v r => { r with configBasedir := v } ]

/-- The manager to ask: npm unless the options name another. -/
def manager (r : RunnerOptions) : Manager :=
  r.packageManager.getD .npm

end RunnerOptions

/-- What is linted. -/
structure LintOptions where
  /-- The source text. -/
  code : String
  /-- The file that the text belongs to. -/
  codeFilename : Option Path
  /-- Whether to compute fixes. -/
  fix : Bool
  /-- Whether comments that switch rules off are ignored. -/
  ignoreDisables : Bool
  /-- Whether comments that switch off nothing are reported. -/
  reportNeedlessDisables : Bool
  /-- Whether comments that name no known rule are reported. -/
  reportInvalidScopeDisables : Bool
  deriving Repr, DecidableEq

namespace LintOptions

/-- The options for some source text, all else at its default. -/
def ofCode (code : String) (file : Option Path) : LintOptions :=
  ⟨code, file, false, false, false, false⟩

/-- The layout of the options. -/
def schema : Json.Schema LintOptions where
  name := "LintOptions"
  mayEndEarly := true
  blank := ofCode "" none
  fields :=
    [ .of "code" false (Json.asText .text) .str (·.code) fun v r => { r with code := v },
      Json.optionalPath "codeFilename" (·.codeFilename) fun v r => { r with codeFilename := v },
      Json.flagField "fix" (·.fix) fun v r => { r with fix := v },
      Json.flagField "ignoreDisables" (·.ignoreDisables) fun v r => { r with ignoreDisables := v },
      Json.flagField "reportNeedlessDisables" (·.reportNeedlessDisables)
        fun v r => { r with reportNeedlessDisables := v },
      Json.flagField "reportInvalidScopeDisables" (·.reportInvalidScopeDisables)
        fun v r => { r with reportInvalidScopeDisables := v } ]

end LintOptions

/-! ## Requests -/

/-- A request to lint. -/
structure LintRequest where
  /-- The folder that the client has open. -/
  workspaceFolder : Path
  /-- What is linted. -/
  options : LintOptions
  /-- How. -/
  runnerOptions : RunnerOptions
  deriving Repr, BEq

/-- A request to say which linter governs a file. -/
structure ResolveRequest where
  /-- The folder that the client has open. -/
  workspaceFolder : Path
  /-- The linter package or entry point, if the client names one. -/
  explicitPath : Option Path
  /-- The file. -/
  codeFilename : Option Path
  /-- How the linter would be called. -/
  runnerOptions : RunnerOptions
  deriving Repr, BEq

/-- The path of the linter: the one that the request names, else the one of its options. -/
def ResolveRequest.stylelintPath (r : ResolveRequest) : Option Path :=
  r.explicitPath.or r.runnerOptions.stylelintPath

/-- What is sent to a worker to lint. -/
structure LintParams where
  /-- What is linted. -/
  options : LintOptions
  /-- How. -/
  runnerOptions : RunnerOptions
  /-- The directory of globally installed modules, if it is known. -/
  globalModulesPath : Option Path
  deriving Repr, BEq

/-- What is sent to a worker to resolve. -/
structure ResolveParams where
  /-- The linter package or entry point. -/
  stylelintPath : Option Path
  /-- The file. -/
  codeFilename : Option Path
  /-- How the linter would be called. -/
  runnerOptions : RunnerOptions
  /-- The directory of globally installed modules, if it is known. -/
  globalModulesPath : Option Path
  deriving Repr, BEq

/-- The field of the directory of globally installed modules, left out if there is none. -/
def globalModulesField : Option Path → List (String × Json)
  | some p => [("globalModulesPath", p.write)]
  | none => []

/-- The object of the parameters. -/
def LintParams.write (p : LintParams) : Json :=
  .object <|
    [("options", LintOptions.schema.write p.options),
      ("runnerOptions", RunnerOptions.schema.write p.runnerOptions)]
    ++ globalModulesField p.globalModulesPath

/-- The object of the parameters. -/
def ResolveParams.write (p : ResolveParams) : Json :=
  .object <|
    [("stylelintPath", Json.writeOptional Path.write p.stylelintPath),
      ("codeFilename", Json.writeOptional Path.write p.codeFilename),
      ("runnerOptions", RunnerOptions.schema.write p.runnerOptions)]
    ++ globalModulesField p.globalModulesPath

end LintPool
