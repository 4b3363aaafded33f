import LintPool.Json.Schema
import LintPool.Path

set_option autoImplicit false

/-!
# Fields that records share

## Main definitions

* `LintPool.Path.read`, `LintPool.Path.write` — a path as a value.
* `LintPool.Json.pathField`, `LintPool.Json.optionalPath`, `LintPool.Json.flagField` — fields.
-/

namespace LintPool

/-- Decodes a path. -/
def Path.read (j : Json) : Json.Decoded Path :=
  (Json.asText .path j).map Path.mk

/-- A path as a value. -/
def Path.write (p : Path) : Json := .str p.text

namespace Json

variable {ρ : Type}

/-- An absent value is written as null. -/
def writeOptional {α : Type} (write : α → Json) : Option α → Json
  | some a => write a
  | none => .null

/-- A field that holds a path and must be there. -/
def pathField (name : String) (get : ρ → Path) (set : Path → ρ → ρ) : Field ρ :=
  .of name true Path.read Path.write get set

/-- A field that may be missing or null. -/
def optionalField {α : Type} (name : String) (read : Json → Decoded α) (write : α → Json)
    (get : ρ → Option α) (set : Option α → ρ → ρ) : Field ρ :=
  .of name false (optional read) (writeOptional write) get set

/-- A field that holds a path, or nothing. -/
def optionalPath (name : String) (get : ρ → Option Path) (set : Option Path → ρ → ρ) : Field ρ :=
  optionalField name Path.read Path.write get set

/-- A field that holds a truth value; a missing one keeps the value it started with. -/
def flagField (name : String) (get : ρ → Bool) (set : Bool → ρ → ρ) : Field ρ :=
  .of name false asFlag .bool get set

end Json

end LintPool
