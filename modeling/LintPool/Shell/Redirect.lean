import LintPool.Shell.Expansion
import LintPool.Shell.Tool.Basic

set_option autoImplicit false

/-!
# Redirections

A redirection leads a descriptor to a file, to a document or to where another descriptor leads.

## Main definitions

* `LintPool.Shell.redirect` — carries out a redirection.
* `LintPool.Shell.redirected` — does something with redirections that hold only meanwhile.
-/

namespace LintPool.Shell

/-- Opens a file for writing. -/
def openFile (path : Letters) (empties : Bool) : Act (Option Outlet) := do
  if path = "/dev/null".toList then return some .nowhere
  let s ← state
  if path = "/dev/stdout".toList then return some (s.outlet 1)
  if path = "/dev/stderr".toList then return some (s.outlet 2)
  let p := State.path path
  let opened := fun t : FileTree =>
    t.writeFile p (if empties then [] else (t.read p).toOption.getD []) 0
  match opened (← files) with
  | .ok _ =>
    changeFiles fun t => (opened t).toOption.getD t
    return some (.file p)
  | .error e =>
    let why := match e with
      | .missing => "Directory nonexistent"
      | e => Tool.wording e
    complain ("cannot create ".toList ++ path ++ ": ".toList ++ why.toList)
    return none

/-- Opens a file for reading. -/
def openInput (path : Letters) : Act (Option Source) := do
  if path = "/dev/null".toList then return some (.bytes [])
  if path = "/dev/stdin".toList then return some (← state).input
  match (← files).read (State.path path) with
  | .ok bytes => return some (.bytes bytes)
  | .error .isFolder => return some (.bytes [])
  | .error e =>
    let why := match e with
      | .missing => "No such file"
      | e => Tool.wording e
    complain ("cannot open ".toList ++ path ++ ": ".toList ++ why.toList)
    return none

/-- Lets a descriptor read from a source; only the first descriptor can. -/
def setInput (descriptor : Nat) (source : Source) : Act Unit :=
  if descriptor = 0 then update fun s => { s with input := source } else return

/-- Lets a descriptor lead where another does, or nowhere; whether that was possible. -/
def copyDescriptor (descriptor : Nat) (other : Letters) : Act Bool := do
  if other = ['-'] then
    if descriptor = 0 then setInput 0 (.bytes [])
    else update fun s => s.setOutlet descriptor .closed
    return true
  match Tool.number? other with
  | none => giveUp "Syntax error: Bad fd number".toList
  | some 0 => return true
  | some n =>
    let p := (← state).outlet n
    if p = .closed then
      complain (other ++ ": Bad file descriptor".toList)
      return false
    if descriptor ≠ 0 then update fun s => s.setOutlet descriptor p
    return true

/-- Carries out a redirection; whether that was possible. -/
def redirect (e : Engine) (r : Redirection) : Act Bool := do
  let target ← textOfWord e r.target
  match r.kind with
  | .read =>
    match ← openInput target with
    | some source => setInput r.descriptor source; return true
    | none => return false
  | .document =>
    setInput r.descriptor (.bytes (bytesOf target))
    return true
  | .write =>
    match ← openFile target true with
    | some p => update fun s => s.setOutlet r.descriptor p; return true
    | none => return false
  | .append =>
    match ← openFile target false with
    | some p => update fun s => s.setOutlet r.descriptor p; return true
    | none => return false
  | .copy => copyDescriptor r.descriptor target

/-- Carries out redirections as far as possible; whether all were. -/
def redirectAll (e : Engine) : List Redirection → Act Bool
  | [] => return true
  | r :: rest => do
    if ← redirect e r then redirectAll e rest else return false

/-- Does something with redirections that hold only meanwhile; if they are not possible, that is a
fault or a failure. -/
def redirected (e : Engine) (isFault : Bool) (rs : List Redirection) (act : Act Nat) : Act Nat :=
  if rs.isEmpty then act
  else
    let readsElsewhere := rs.any (·.descriptor = 0)
    keeping (fun before s => { s with
        outlets := before.outlets
        input := if readsElsewhere then before.input else s.input }) do
      if ← redirectAll e rs then act
      else if isFault then halt .fault
      else return 2

end LintPool.Shell
