import LintPool.Shell.Tool.Basic

set_option autoImplicit false

/-!
# Programs that look after files

## Main definitions

* `LintPool.Shell.Tool.ls` — lists files and what is in folders.
* `LintPool.Shell.Tool.rm`, `rmdir`, `mkdir`, `touch`, `cp`, `mv`, `ln`, `chmod` — change files.
* `LintPool.Shell.Tool.basename`, `dirname` — take paths apart.
-/

namespace LintPool.Shell.Tool

/-! ## Listing -/

/-- The letters of a name. -/
def lettersOfName (n : Name) : Letters := lettersOfText (String.ofList n)

/-- The names in a folder, sorted by their bytes. -/
def namesIn : Node → List Letters
  | .folder _ entries => (entries.map fun entry => lettersOfName entry.1).mergeSort noLater
  | _ => []

/-- The lines that show what is in a folder. -/
def listing (g : Given) (n : Node) : Letters :=
  let names := namesIn n
  let shown := if g.has 'a' then ['.'] :: ['.', '.'] :: names
    else if g.has 'A' then names
    else names.filter fun n => n.head? ≠ some '.'
  let shown := if g.has 'r' then shown.reverse else shown
  shown.flatMap fun n => n ++ ['\n']

/-- Lists files and what is in folders. -/
def ls (s : Surrounding) : Routine Ending :=
  withOptions s "aA1drUqN" "" fun g => do
    let t ← files s
    let operands := if g.operands.isEmpty then [['.']] else g.operands.mergeSort noLater
    let found := operands.map fun o => (o, t.inspect (State.path o))
    for o in g.operands do
      if let .error e := t.inspect (State.path o) then
        complain s s!"cannot access '{textOf o}': {wording e}"
    let there := found.filterMap fun (o, r) => r.toOption.map fun n => (o, n)
    let single := there.filter fun (_, n) => !n.isFolder || g.has 'd'
    let folders := there.filter fun (_, n) => n.isFolder && !g.has 'd'
    for (o, _) in single do printLine o
    let blocks := folders.map fun (o, n) =>
      (if operands.length > 1 then o ++ ":\n".toList else []) ++ listing g n
    if !single.isEmpty && !blocks.isEmpty then print ['\n']
    print (['\n'].intercalate blocks)
    exit (if there.length = found.length then 0 else 2)

/-! ## Removing and making -/

/-- Removes what a path leads to. -/
def removed (p : Path) (t : FileTree) : FileTree := (t.apply (.remove p)).toOption.getD t

/-- Removes files, and whole folders if asked to. -/
def rm (s : Surrounding) : Routine Ending :=
  withOptions s "rRfidv" "" fun g => do
    let whole := g.has 'r' || g.has 'R'
    if g.operands.isEmpty && !g.has 'f' then misused s "missing operand"
    else
      let mut code := 0
      for o in g.operands do
        let p := State.path o
        let t ← files s
        match t.apply (.remove p), t.inspect p with
        | .error e, _ =>
          if !(g.has 'f' && e.isAbsence) then
            complain s s!"cannot remove '{textOf o}': {wording e}"
            code := 1
        | .ok _, .ok (.folder _ entries) =>
          if whole || (g.has 'd' && entries.isEmpty) then change s (removed p)
          else
            complain s s!"cannot remove '{textOf o}': Is a directory"
            code := 1
        | .ok _, _ => change s (removed p)
      exit code

/-- Removes empty folders. -/
def rmdir (s : Surrounding) : Routine Ending :=
  withOptions s "v" "" fun g => do
    if g.operands.isEmpty then misused s "missing operand"
    else
      let mut code := 0
      for o in g.operands do
        let p := State.path o
        let why ← match (← files s).inspect p with
          | .ok (.folder _ []) => change s (removed p); pure none
          | .ok (.folder ..) => pure (some "Directory not empty")
          | .ok _ => pure (some "Not a directory")
          | .error e => pure (some (wording e))
        if let some why := why then
          complain s s!"failed to remove '{textOf o}': {why}"
          code := 1
      exit code

/-- Makes folders. -/
def mkdir (s : Surrounding) : Routine Ending :=
  withOptions s "pv" "m" fun g => do
    if g.operands.isEmpty then misused s "missing operand"
    else
      let mut code := 0
      for o in g.operands do
        let p := State.path o
        let t ← files s
        let make := fun t : FileTree =>
          if g.has 'p' then t.apply (.folder p 0) else t.makeFolder p 0
        let made : Except String FileTree := match t.inspect p with
          | .ok n => if g.has 'p' && n.isFolder then .ok t else .error "File exists"
          | .error _ => (make t).mapError wording
        match made with
        | .ok _ => change s fun t => (make t).toOption.getD t
        | .error why =>
          complain s s!"cannot create directory '{textOf o}': {why}"
          code := 1
      exit code

/-- Makes files that are missing. -/
def touch (s : Surrounding) : Routine Ending :=
  withOptions s "acm" "dtr" fun g => do
    if g.operands.isEmpty then misused s "missing file operand"
    else
      let mut code := 0
      for o in g.operands do
        let p := State.path o
        let t ← files s
        if !(t.inspect p).isOk && !g.has 'c' then
          match t.writeFile p [] 0 with
          | .ok _ => change s fun t => (t.writeFile p [] 0).toOption.getD t
          | .error e =>
            complain s s!"cannot touch '{textOf o}': {wording e}"
            code := 1
      exit code

/-! ## Copying and moving -/

/-- A path without slashes at its end. -/
def withoutSlashes (cs : Letters) : Letters :=
  let kept := (cs.reverse.dropWhile (· = '/')).reverse
  if kept.isEmpty && !cs.isEmpty then ['/'] else kept

/-- The last name of a path. -/
def lastName (cs : Letters) : Letters :=
  let p := withoutSlashes cs
  if p = ['/'] then p else (p.reverse.takeWhile (· ≠ '/')).reverse

/-- Where a copy of a source goes: into the target if that is a folder. -/
def goalOf (t : FileTree) (source target : Letters) : Path :=
  match t.inspect (State.path target) with
  | .ok (.folder ..) => (State.path target).join (State.path (lastName source))
  | _ => State.path target

/-- Does something with each source and the target that the last operand names. -/
def transfer (s : Surrounding) (g : Given)
    (act : Letters → Path → Node → FileTree → Except String FileTree) (verb : String) :
    Routine Ending := do
  match g.operands with
  | [] => misused s "missing file operand"
  | [one] => misused s s!"missing destination file operand after '{textOf one}'"
  | operands =>
    let target := operands.getLastD []
    let mut code := 0
    for source in operands.dropLast do
      let t ← files s
      match t.inspect (State.path source) with
      | .error e =>
        complain s s!"cannot {verb} '{textOf source}': {wording e}"
        code := 1
      | .ok node =>
        match act source (goalOf t source target) node t with
        | .error what =>
          complain s what
          code := 1
        | .ok _ => change s fun t => (act source (goalOf t source target) node t).toOption.getD t
    exit code

/-- Copies files, and whole folders if asked to. -/
def cp (s : Surrounding) : Routine Ending :=
  withOptions s "rRapfv" "" fun g =>
    transfer s g (fun source goal node t =>
      match node with
      | .folder .. =>
        if g.has 'r' || g.has 'R' || g.has 'a' then
          (t.put true goal fun _ => some node).mapError wording
        else .error s!"-r not specified; omitting directory '{textOf source}'"
      | .file content _ executable =>
        match t.inspect goal with
        | .ok _ => (t.writeFile goal content 0).mapError wording
        | .error _ => (t.put true goal fun _ => some (.file content 0 executable)).mapError fun e =>
          s!"cannot create regular file '{goal.text}': {wording e}"
      | n => (t.put true goal fun _ => some n).mapError wording) "stat"

/-- Moves files and folders. -/
def mv (s : Surrounding) : Routine Ending :=
  withOptions s "fnv" "" fun g =>
    transfer s g (fun source goal node t =>
      match t.put true goal fun _ => some node with
      | .ok t => .ok (removed (State.path source) t)
      | .error e => .error s!"cannot move '{textOf source}' to '{goal.text}': {wording e}") "stat"

/-- Makes links. -/
def ln (s : Surrounding) : Routine Ending :=
  withOptions s "sfn" "" fun g => do
    match g.operands with
    | [target, place] =>
      let t ← files s
      let goal := goalOf t target place
      if (t.inspect goal).isOk && !g.has 'f' then
        let kind := if g.has 's' then "symbolic" else "hard"
        complain s s!"failed to create {kind} link '{goal.text}': File exists"
        exit 1
      else
        let node := if g.has 's' then some (Node.link (textOf target))
          else (t.inspect (State.path target)).toOption
        change s fun t => (t.put false goal fun _ => node).toOption.getD t
        exit 0
    | _ => misused s "missing file operand"

/-- Whether a mode makes files executable, if it says anything about that. -/
def executability? (mode : Letters) : Option Bool :=
  if mode.all isOctal && !mode.isEmpty then
    some (mode.any fun c => c = '1' || c = '3' || c = '5' || c = '7')
  else if !mode.contains 'x' then none
  else if mode.contains '-' then some false
  else some true
where
  /-- Whether a character is an octal digit. -/
  isOctal (c : Char) : Bool := '0' ≤ c && c ≤ '7'

/-- Changes who may do what with files, of which only execution counts. -/
def chmod (s : Surrounding) : Routine Ending := do
  match s.arguments with
  | [] => misused s "missing operand"
  | [mode] => misused s s!"missing operand after '{textOf mode}'"
  | mode :: operands =>
    let mut code := 0
    for o in operands do
      match (← files s).inspect (State.path o) with
      | .ok _ => change s fun t =>
        (t.put true (State.path o) fun
          | some (.file content modified old) =>
            some (.file content modified ((executability? mode).getD old))
          | n => n).toOption.getD t
      | .error e =>
        complain s s!"cannot access '{textOf o}': {wording e}"
        code := 1
    exit code

/-! ## Paths -/

/-- Writes the last name of a path, without an ending. -/
def basename (s : Surrounding) : Routine Ending := do
  match s.arguments with
  | [] => misused s "missing operand"
  | _ :: _ :: extra :: _ => misused s s!"extra operand '{textOf extra}'"
  | p :: more =>
    let last := lastName p
    let ending := more.headD []
    printLine (if ending.isSuffixOf last && ending ≠ last then
      last.take (last.length - ending.length) else last)
    exit 0

/-- Writes paths without their last names. -/
def dirname (s : Surrounding) : Routine Ending := do
  if s.arguments.isEmpty then misused s "missing operand"
  else
    for p in s.arguments do
      let p := withoutSlashes p
      printLine (if p.contains '/' then withoutSlashes (p.reverse.dropWhile (· ≠ '/')).reverse
        else ['.'])
    exit 0

/-- Writes the current folder. -/
def pwd (s : Surrounding) : Routine Ending := do
  printLine (lettersOfText (FileTree.addressText s.folder))
  exit 0

end LintPool.Shell.Tool
