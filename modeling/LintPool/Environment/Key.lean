import LintPool.Digest.Sha256
import LintPool.Search.Upward
import LintPool.Worker.Context

set_option autoImplicit false

/-!
# The fingerprint of an environment

A worker has to be replaced when the files change that decide what it would load: the manifest and
the install state of its root and of the workspace folder, the linter's entry point and the manifest
of the linter. The fingerprint is a digest over these paths, each with the time of the file. A file
that is not there, or that cannot be looked at, counts with a word in place of the time, so that
making it and taking it away both change the fingerprint.

## Main definitions

* `LintPool.environmentInputs` — the files, in order.
* `LintPool.stamp` — what a file counts with.
* `LintPool.environmentMaterial` — the bytes that the digest is taken of.
* `LintPool.environmentKey` — the fingerprint.
-/

namespace LintPool

/-- The name of a manifest. -/
def manifestName : String := "package.json"

/-- The names of the files that change when packages are installed. -/
def installStateNames : List String :=
  ["package-lock.json", "yarn.lock", "pnpm-lock.yaml", ".pnp.cjs"]

/-- The files of one folder that count. -/
def folderInputs (folder : Path) : List Path :=
  (manifestName :: installStateNames).map fun name => folder.join ⟨name⟩

/-- The manifest of the package that an entry point belongs to; a search that fails finds none. -/
def linterManifest? (probe : Probe) (entry : Path) : Option Path :=
  match findPackageRoot probe entry manifestName with
  | .ok s => s.found
  | .error _ => none

/-- The files that count for the linter. -/
def linterInputs (probe : Probe) (workspaceFolder : Path) : Option Path → List Path
  | none => []
  | some given =>
    let entry := given.seenFrom workspaceFolder
    (linterManifest? probe entry).toList ++ [entry]

/-- The files that count, in order. -/
def environmentInputs (probe : Probe) (workspaceFolder workerRoot : Path) (entry : Option Path) :
    List Path :=
  folderInputs workerRoot
    ++ (if workspaceFolder.Same workerRoot then [] else folderInputs workspaceFolder)
    ++ linterInputs probe workspaceFolder entry

/-- What can be seen of a file's time. -/
inductive Stamp where
  | missing
  | unreadable
  /-- Nanoseconds since 1970. -/
  | modified (nanos : Nat)
  deriving Repr, DecidableEq

/-- The wording of a stamp. -/
def Stamp.text : Stamp → String
  | .missing => "missing"
  | .unreadable => "unreadable"
  | .modified nanos => toString nanos

/-- The stamp of a time; one before 1970 cannot be read. -/
def Stamp.ofTime (t : Timestamp) : Stamp :=
  if t < 0 then .unreadable else .modified t.toNat

/-- What can be seen of the time of an object. -/
def Stamp.ofNode : Node → Stamp
  | .file _ t _ => .ofTime t
  | .folder t _ => .ofTime t
  | .link _ => .unreadable

/-- What can be seen of the time of the object that a path leads to. -/
def stamp (t : FileTree) (p : Path) : Stamp :=
  match t.inspect p with
  | .ok n => .ofNode n
  | .error e => if e.isAbsence then .missing else .unreadable

/-- The bytes that one file adds: its path, a NUL, its stamp and a line feed. -/
def material (t : FileTree) (p : Path) : Bytes :=
  Text.encode p.text ++ 0x00 :: (Text.encode (stamp t p).text ++ [0x0A])

/-- The bytes that the digest is taken of. -/
def environmentMaterial (t : FileTree) (workspaceFolder workerRoot : Path) (entry : Option Path) :
    Bytes :=
  (environmentInputs t.isFile workspaceFolder workerRoot entry).flatMap (material t)

/-- The fingerprint of an environment. -/
def environmentKey (t : FileTree) (workspaceFolder workerRoot : Path) (entry : Option Path) :
    EnvironmentKey :=
  Sha256.digest (environmentMaterial t workspaceFolder workerRoot entry)

end LintPool
