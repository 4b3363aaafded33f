import LintPool.Config.Settings
import LintPool.FileTree.Walk
import LintPool.Toml.Reader

set_option autoImplicit false

/-!
# Settings from a file

A file gives some of the settings by name; the others keep their standard values. A name that is
unknown is passed over, and so is a whole file that is missing or cannot be read.

## Main definitions

* `LintPool.Settings.parse?` — the settings that a text gives.
* `LintPool.Settings.load` — the settings that a file gives.
* `LintPool.settingsFile` — where a user's settings are.
-/

namespace LintPool

namespace Settings

/-- The value of a name. -/
def given? (entries : Toml.Entries) (name : String) : Option Toml.Value :=
  Toml.get? name.toList entries

/-- A natural number up to a bound. -/
def natural? (bound : Nat) : Toml.Value → Option Nat
  | .scalar (.integer i) => if 0 ≤ i ∧ i.toNat ≤ bound then some i.toNat else none
  | _ => none

/-- A number; an integer counts if some 64-bit word holds it. -/
def number? : Toml.Value → Option Binary64
  | .scalar (.float x) => some x
  | .scalar (.integer i) => if -(Nat.pow 2 63) ≤ i ∧ i < Nat.pow 2 64 then some (.ofInt i) else none
  | _ => none

/-- A text. -/
def text? : Toml.Value → Option String
  | .text s => some s
  | _ => none

/-- The setting of a name: the standard one if the name is not given, nothing if its value is of
the wrong kind. -/
def setting? {α : Type} (entries : Toml.Entries) (name : String) (read : Toml.Value → Option α)
    (standard : α) : Option α :=
  match given? entries name with
  | none => some standard
  | some v => read v

/-- The setting of a name that is a number of seconds. -/
def seconds? (entries : Toml.Entries) (name : String) (standard : UInt64) : Option UInt64 :=
  setting? entries name (fun v => (natural? (Nat.pow 2 64 - 1) v).map .ofNat) standard

/-- The settings that a table gives. -/
def ofEntries? (es : Toml.Entries) : Option Settings := do
  let s := standard
  let crashThreshold ← setting? es "crash_threshold"
    (fun v => (natural? (Nat.pow 2 32 - 1) v).map .ofNat) s.crashThreshold
  let suppressionSecs ← seconds? es "suppression_secs" s.suppressionSecs
  let suppressionBackoff ← setting? es "suppression_backoff" number? s.suppressionBackoff
  let maxSuppressionSecs ← seconds? es "max_suppression_secs" s.maxSuppressionSecs
  let workerIdleTimeoutSecs ← seconds? es "worker_idle_timeout_secs" s.workerIdleTimeoutSecs
  let requestTimeoutSecs ← seconds? es "request_timeout_secs" s.requestTimeoutSecs
  let workerCommand ← setting? es "worker_command" text? s.workerCommand
  let workerScript ← setting? es "worker_script"
    (fun v => (text? v).map fun t => some ⟨t⟩) s.workerScript
  let packageMarker ← setting? es "package_marker" text? s.packageMarker
  return { crashThreshold, suppressionSecs, suppressionBackoff, maxSuppressionSecs,
           workerIdleTimeoutSecs, requestTimeoutSecs, workerCommand, workerScript, packageMarker }

/-- The settings that a text gives, made to make sense together. -/
def parse? (s : String) : Option Settings :=
  ((Toml.readDocument s).bind ofEntries?).map normalized

/-- The settings that a file gives, the standard ones if it gives none. -/
def load (t : FileTree) (file : Path) : Settings :=
  match t.read file with
  | .error _ => standard
  | .ok content => match Text.decode content with
    | .error _ => standard
    | .ok s => (parse? s).getD standard

end Settings

/-- Where the settings of a user are, by the user's home folder. -/
def settingsFile (home : Path) : Path :=
  (home.join ⟨".stylist"⟩).join ⟨"config.toml"⟩

end LintPool
