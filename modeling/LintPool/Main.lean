import LintPool.CommandLine.Run
import LintPool.FileTree.Edit

set_option autoImplicit false

/-!
# The program as it is started

The files below the current folder and the settings of the user are read, the program is run on
them, and what it prints is printed. Worker scripts and the commands of package managers are run on
the files that were read; what they write is not written back.

## Main definitions

* `main` — the program.
-/

namespace LintPool.Start

/-- The time of an object. -/
def timestamp (m : IO.FS.Metadata) : Timestamp :=
  m.modified.sec * 1000000000 + (m.modified.nsec.toNat : Int)

/-- The content of a file. -/
def content (bytes : ByteArray) : Bytes := bytes.toList

/-- What makes the entries of a folder that stands at a path; files count as executable. -/
partial def entryEdits (folder : Path) (entries : Array IO.FS.DirEntry) : IO (List Edit) := do
  let mut edits : List Edit := []
  for entry in entries do
    let p := folder.join ⟨entry.fileName⟩
    let facts ← entry.path.metadata
    match facts.type with
    | .dir =>
      let inside ← entryEdits p (← entry.path.readDir)
      edits := edits ++ inside ++ [.folder p (timestamp facts)]
    | .file =>
      let bytes ← IO.FS.readBinFile entry.path
      edits := edits ++ [.file p (content bytes) (timestamp facts) true]
    | _ => pure ()
  return edits

/-- What makes the file of the settings, if there is one. -/
def settingsEdits (home : Path) : IO (List Edit) := do
  let file := settingsFile home
  try
    let bytes ← IO.FS.readBinFile file.text
    return [.file file (content bytes) 0 false]
  catch _ => return []

/-- The variables that the program looks at. -/
def environment : IO Environment := do
  let home ← IO.getEnv "HOME"
  let path ← IO.getEnv "PATH"
  return (home.toList.map fun v => ("HOME", v)) ++ path.toList.map fun v => ("PATH", v)

/-- Prints what the program prints. -/
def print (p : Printed) : IO UInt32 := do
  IO.print p.output
  IO.eprint p.errors
  return .ofNat p.code

end LintPool.Start

section

open LintPool

/-- Runs the program. -/
def main (args : List String) : IO UInt32 := do
  let environment ← Start.environment
  let here ← IO.currentDir
  let folder : Path := ⟨here.toString⟩
  let edits ← Start.entryEdits folder (← here.readDir)
  let t := (FileTree.startingAt folder).applyAll (edits ++ (← Start.settingsEdits environment.home))
  match runProgram environment t args with
  | .ok (printed, _) => Start.print printed
  | .error e =>
    IO.eprintln s!"error: {e.name}"
    return .ofNat e.exitCode

end
