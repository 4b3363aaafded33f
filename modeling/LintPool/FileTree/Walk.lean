import LintPool.FileTree.Basic

set_option autoImplicit false

/-!
# Finding an object by its path

A walk reads a path name by name. Every name is looked up in a folder; a link is replaced by the
path written in it, and at most forty links are followed on one walk. The link at the very end is
followed only if the caller asks for what it leads to.

## Main definitions

* `LintPool.AccessError` — why a walk fails, and its wording.
* `LintPool.FileTree.locate` — the address of the object that a path leads to.
* `LintPool.FileTree.inspect` — the object itself.
* `LintPool.FileTree.isFile` — whether a path leads to a file.
-/

namespace LintPool

/-- Why an object cannot be reached or used. -/
inductive AccessError where
  | missing
  | notFolder
  | isFolder
  | nameTooLong
  | tooManyLinks
  | denied
  | badFormat
  | containsNul
  deriving Repr, DecidableEq

/-- The wording of an access error. -/
def AccessError.message : AccessError → String
  | .missing => "No such file or directory (os error 2)"
  | .badFormat => "Exec format error (os error 8)"
  | .denied => "Permission denied (os error 13)"
  | .notFolder => "Not a directory (os error 20)"
  | .isFolder => "Is a directory (os error 21)"
  | .nameTooLong => "File name too long (os error 36)"
  | .tooManyLinks => "Too many levels of symbolic links (os error 40)"
  | .containsNul => "file name contained an unexpected NUL byte"

/-- Whether the error says no more than that there is nothing at the path. -/
def AccessError.isAbsence : AccessError → Bool
  | .missing => true
  | .notFolder => true
  | _ => false

/-- Where a walk ends. -/
inductive Place where
  /-- At an object. -/
  | found (address : Address)
  /-- At a name that its folder does not have. -/
  | absent (folder : Address) (name : Name)
  deriving Repr, DecidableEq

/-- The most bytes that a name may have. -/
def maxNameBytes : Nat := 255

/-- The most bytes that a path may have. -/
def maxPathBytes : Nat := 4095

/-- The most links that one walk follows. -/
def maxLinks : Nat := 40

/-- The number of bytes of some characters. -/
def byteCount (cs : List Char) : Nat :=
  cs.foldl (fun n c => n + c.utf8Size) 0

/-- Whether a piece of a path stays where it is: it is empty or a dot. -/
def staysHere (piece : Name) : Bool :=
  piece = [] || piece = ['.']

/-- Goes on from an address along the pieces of a path; `follow` says whether a link at the end is
followed, and `links` how many links may still be. -/
def walk (root : Node) (follow : Bool) (links : Nat) (here : Address) (pieces : List Name) :
    Except AccessError Place :=
  match pieces with
  | [] => .ok (.found here)
  | piece :: rest =>
    match root.at? here with
    | some (.folder _ entries) =>
      if staysHere piece then walk root follow links here rest
      else if piece = ['.', '.'] then walk root follow links here.dropLast rest
      else if maxNameBytes < byteCount piece then .error .nameTooLong
      else match entry? piece entries with
        | none => if rest.all staysHere then .ok (.absent here piece) else .error .missing
        | some (.link target) =>
          if rest.isEmpty && !follow then .ok (.found (here ++ [piece]))
          else match links with
            | 0 => .error .tooManyLinks
            | links + 1 =>
              let onward := Path.pieces target.toList ++ rest
              walk root follow links (if target.toList.head? = some '/' then [] else here) onward
        | some _ => walk root follow links (here ++ [piece]) rest
    | some _ => .error .notFolder
    | none => .error .missing
termination_by (links, pieces.length)

namespace FileTree

/-- Where a path leads. -/
def place (t : FileTree) (follow : Bool) (p : Path) : Except AccessError Place :=
  if p.chars.any (· = '\x00') then .error .containsNul
  else if p.chars.isEmpty then .error .missing
  else if maxPathBytes < byteCount p.chars then .error .nameTooLong
  else walk t.root follow maxLinks (t.start p) (Path.pieces p.chars)

/-- The address of the object that a path leads to. -/
def locate (t : FileTree) (p : Path) : Except AccessError Address :=
  match t.place true p with
  | .ok (.found a) => .ok a
  | .ok (.absent ..) => .error .missing
  | .error e => .error e

/-- The object that a path leads to. -/
def inspect (t : FileTree) (p : Path) : Except AccessError Node :=
  match t.locate p with
  | .ok a => match t.root.at? a with
    | some n => .ok n
    | none => .error .missing
  | .error e => .error e

/-- Whether a path leads to a file; an error is one that says more than that nothing is there. -/
def isFile (t : FileTree) (p : Path) : Except AccessError Bool :=
  match t.inspect p with
  | .ok n => .ok n.isFile
  | .error e => if e.isAbsence then .ok false else .error e

/-- The content of the file that a path leads to. -/
def read (t : FileTree) (p : Path) : Except AccessError Bytes :=
  match t.inspect p with
  | .ok (.file content _ _) => .ok content
  | .ok _ => .error .isFolder
  | .error e => .error e

end FileTree

end LintPool
