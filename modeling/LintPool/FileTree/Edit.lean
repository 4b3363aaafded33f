import LintPool.FileTree.Walk

set_option autoImplicit false

/-!
# Changing a tree

Changing what is in a folder leaves the time of the folder as it is.

## Main definitions

* `LintPool.FileTree.writeFile` — new content for the file that a path leads to.
* `LintPool.Edit`, `LintPool.FileTree.apply` — changes that make the folders they need.
-/

namespace LintPool

/-- A change of a tree. -/
inductive Edit where
  /-- A file with new content, time and permission. -/
  | file (path : Path) (content : Bytes) (modified : Timestamp) (executable : Bool)
  /-- A folder, new or with a new time. -/
  | folder (path : Path) (modified : Timestamp)
  /-- A symbolic link. -/
  | link (path : Path) (target : String)
  /-- A file, link or whole folder taken away. -/
  | remove (path : Path)
  deriving Repr

namespace FileTree

/-- Puts an object where a path leads, if it leads anywhere in a folder; an object that is there is
changed by `change`. -/
def put (t : FileTree) (follow : Bool) (p : Path) (change : Option Node → Option Node) :
    Except AccessError FileTree :=
  match t.place follow p with
  | .error e => .error e
  | .ok (.found a) => .ok (t.replace a (change (t.root.at? a)))
  | .ok (.absent folder name) => .ok (t.replace (folder ++ [name]) (change none))

/-- Writes a file: an old one keeps its permission. -/
def writeFile (t : FileTree) (p : Path) (content : Bytes) (modified : Timestamp) :
    Except AccessError FileTree :=
  match t.inspect p with
  | .ok (.folder ..) => .error .isFolder
  | _ =>
    if p.chars.getLast? = some '/' then .error .isFolder
    else t.put true p fun old => match old with
      | some (.file _ _ executable) => some (.file content modified executable)
      | _ => some (.file content modified false)

/-- Makes the folder of a path unless there is one; the folder above it must be there. -/
def makeFolder (t : FileTree) (p : Path) (modified : Timestamp) : Except AccessError FileTree :=
  t.put true p fun old => match old with
    | some n => some n
    | none => some (.folder modified [])

/-- Makes the folders above a path, topmost first, as far as they are missing. -/
def makeAbove (t : FileTree) (p : Path) : FileTree :=
  (p.above (p.chars.length + 1)).reverse.foldl
    (fun t q => if q.chars.isEmpty then t else (t.makeFolder q 0).toOption.getD t) t

/-- Applies a change. -/
def apply (t : FileTree) : Edit → Except AccessError FileTree
  | .file p content modified executable =>
    (t.makeAbove p).put true p fun _ => some (.file content modified executable)
  | .folder p modified =>
    (t.makeAbove p).put true p fun old => match old with
      | some (.folder _ entries) => some (.folder modified entries)
      | some n => some n
      | none => some (.folder modified [])
  | .link p target => (t.makeAbove p).put false p fun _ => some (.link target)
  | .remove p =>
    match t.place false p with
    | .ok (.found a) => .ok (if a.isEmpty then t else t.replace a none)
    | .ok (.absent ..) => .error .missing
    | .error e => .error e

/-- Applies changes in order; one that fails leaves the tree as it was. -/
def applyAll (t : FileTree) (edits : List Edit) : FileTree :=
  edits.foldl (fun t e => (t.apply e).toOption.getD t) t

/-- An empty tree whose current folder is at an absolute path. -/
def startingAt (folder : Path) : FileTree :=
  let t := empty.applyAll [.folder folder 0]
  match t.locate folder with
  | .ok a => ({ t with current := a }).seenAt a
  | .error _ => t

end FileTree

end LintPool
