import LintPool.Json.Schema
import LintPool.Text.Blank

set_option autoImplicit false

/-!
# Package managers

The managers whose directory of globally installed modules can be asked for.

## Main definitions

* `LintPool.Manager` — a package manager.
* `LintPool.Manager.ofText?` — reading a name as a user types it.
* `LintPool.Manager.command` — the command that reports the manager's directory.
-/

namespace LintPool

/-- A package manager. -/
inductive Manager where
  | npm
  | yarn
  | pnpm
  deriving Repr, DecidableEq, Inhabited

/-- A program and its arguments. -/
structure Command where
  /-- The name of the program. -/
  program : String
  /-- The arguments, the program's own name not counted. -/
  arguments : List String
  deriving Repr, DecidableEq

namespace Manager

/-- All managers. -/
def all : List Manager := [.npm, .yarn, .pnpm]

/-- The name of a manager, which is the name of its program too. -/
def name : Manager → String
  | .npm => "npm"
  | .yarn => "yarn"
  | .pnpm => "pnpm"

/-- The manager of a name, whose case and surrounding blanks do not matter. -/
def ofText? (s : String) : Option Manager :=
  let lowered := (Text.trimChars s.toList).map Char.toLower
  all.find? fun m => m.name.toList = lowered

/-- The wording for a name that is no manager's. -/
def unknownMessage (s : String) : String :=
  s!"unknown package manager: {s}"

/-- The command that reports the directory of globally installed modules. -/
def command : Manager → Command
  | .npm => ⟨"npm", ["config", "get", "prefix"]⟩
  | .yarn => ⟨"yarn", ["global", "dir", "--json"]⟩
  | .pnpm => ⟨"pnpm", ["root", "-g"]⟩

/-- Decodes a manager. -/
def read : Json → Json.Decoded Manager :=
  Json.readVariant (all.map fun m => (m.name, m))

/-- The name of a manager as a value. -/
def write (m : Manager) : Json := .str m.name

end Manager

end LintPool
