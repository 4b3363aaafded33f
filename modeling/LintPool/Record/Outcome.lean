import LintPool.Record.Fields

set_option autoImplicit false

/-!
# What a worker answers

## Main definitions

* `LintPool.LintOutcome` — the result of a lint.
* `LintPool.ResolvedLinter` — a linter that was found.
* `LintPool.PnpConfiguration` — the scripts that a Plug'n'Play installation loads first.
-/

namespace LintPool

/-- The result of a lint. -/
structure LintOutcome where
  /-- The entry point of the linter that made it. -/
  resolvedPath : Path
  /-- The result as the linter gave it. -/
  linterResult : Json
  deriving Repr, BEq

/-- The layout of a lint result. -/
def LintOutcome.schema : Json.Schema LintOutcome where
  name := "LintOutcome"
  mayEndEarly := false
  blank := ⟨⟨""⟩, .null⟩
  fields :=
    [ Json.pathField "resolvedPath" (·.resolvedPath) fun v r => { r with resolvedPath := v },
      .of "linterResult" true .ok id (·.linterResult) fun v r => { r with linterResult := v } ]

/-- A linter that was found. -/
structure ResolvedLinter where
  /-- Its entry point. -/
  entryPath : Path
  /-- The directory of its package. -/
  resolvedPath : Path
  /-- Its version, if it is known. -/
  version : Option String
  deriving Repr, DecidableEq

/-- The layout of a linter that was found. -/
def ResolvedLinter.schema : Json.Schema ResolvedLinter where
  name := "ResolvedLinter"
  mayEndEarly := false
  blank := ⟨⟨""⟩, ⟨""⟩, none⟩
  fields :=
    [ Json.pathField "entryPath" (·.entryPath) fun v r => { r with entryPath := v },
      Json.pathField "resolvedPath" (·.resolvedPath) fun v r => { r with resolvedPath := v },
      Json.optionalField "version" (Json.asText .text) .str (·.version)
        fun v r => { r with version := v } ]

/-- The scripts that a Plug'n'Play installation loads before any module. -/
structure PnpConfiguration where
  /-- The script that registers the resolver. -/
  registerPath : Path
  /-- The loader of modules beside it, if there is one. -/
  loaderPath : Option Path
  deriving Repr, DecidableEq

/-- The layout of a Plug'n'Play configuration. -/
def PnpConfiguration.schema : Json.Schema PnpConfiguration where
  name := "PnpConfiguration"
  mayEndEarly := false
  blank := ⟨⟨""⟩, none⟩
  fields :=
    [ Json.pathField "registerPath" (·.registerPath) fun v r => { r with registerPath := v },
      Json.optionalPath "loaderPath" (·.loaderPath) fun v r => { r with loaderPath := v } ]

/-- Two configurations name the same scripts. -/
def PnpConfiguration.Same (a b : PnpConfiguration) : Prop :=
  a.registerPath.components = b.registerPath.components
    ∧ a.loaderPath.map Path.components = b.loaderPath.map Path.components

instance (a b : PnpConfiguration) : Decidable (PnpConfiguration.Same a b) :=
  inferInstanceAs (Decidable (_ ∧ _))

end LintPool
