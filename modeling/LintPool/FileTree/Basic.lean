import LintPool.Path

set_option autoImplicit false

/-!
# Trees of files

A tree holds files, folders and symbolic links below one root, and knows the folder that relative
paths start from. An *address* is the list of names that leads from the root to an object, without
links on the way.

Nothing has permissions: whoever looks at a path may go everywhere, as the root user may. Looking is
never refused; only a file that is not executable is, when it is to be run.

## Main definitions

* `LintPool.Node` — a file, a link, or a folder with what is in it.
* `LintPool.FileTree` — a root, and the address of the current folder.
* `LintPool.Node.at?`, `LintPool.Node.replace` — the object at an address.
-/

namespace LintPool

/-- The name of an object in its folder. -/
abbrev Name := List Char

/-- The names that lead from the root to an object. -/
abbrev Address := List Name

/-- A time in nanoseconds since 1970; earlier times are negative. -/
abbrev Timestamp := Int

/-- A file, a link, or a folder with what is in it. -/
inductive Node where
  /-- A file. -/
  | file (content : Bytes) (modified : Timestamp) (executable : Bool)
  /-- A symbolic link to the path written in it. -/
  | link (target : String)
  /-- A folder. -/
  | folder (modified : Timestamp) (entries : List (Name × Node))
  deriving Repr, Inhabited

/-- A root, and the address of the folder that relative paths start from. -/
structure FileTree where
  /-- The folder above everything. -/
  root : Node
  /-- The address of the current folder. -/
  current : Address
  deriving Repr, Inhabited

/-- The entry of a name. -/
def entry? (name : Name) (entries : List (Name × Node)) : Option Node :=
  (entries.find? (·.1 = name)).map (·.2)

/-- The entries with one put in, or taken out. -/
def setEntry (name : Name) (node : Option Node) : List (Name × Node) → List (Name × Node)
  | [] => match node with
    | some n => [(name, n)]
    | none => []
  | (k, n) :: rest =>
    if k = name then match node with
      | some m => (k, m) :: rest
      | none => rest
    else (k, n) :: setEntry name node rest

namespace Node

/-- The object of a name in a folder. -/
def child? : Node → Name → Option Node
  | .folder _ entries, name => entry? name entries
  | _, _ => none

/-- The object at an address. -/
def at? (n : Node) : Address → Option Node
  | [] => some n
  | name :: rest => match n.child? name with
    | some c => c.at? rest
    | none => none

/-- Whether a node is a folder. -/
def isFolder : Node → Bool
  | .folder .. => true
  | _ => false

/-- Whether a node is a file. -/
def isFile : Node → Bool
  | .file .. => true
  | _ => false

/-- The tree with the object at an address replaced, put in, or taken out; nothing changes if no
folder is on the way. -/
def replace (n : Node) (new : Option Node) : Address → Node
  | [] => new.getD n
  | [name] => match n with
    | .folder t entries => .folder t (setEntry name new entries)
    | n => n
  | name :: rest => match n with
    | .folder t entries =>
      match entry? name entries with
      | some c => .folder t (setEntry name (some (c.replace new rest)) entries)
      | none => .folder t entries
    | n => n

end Node

namespace FileTree

/-- The tree with the object at an address replaced, put in, or taken out. -/
def replace (t : FileTree) (address : Address) (new : Option Node) : FileTree :=
  { t with root := t.root.replace new address }

/-- The address that a path starts from. -/
def start (t : FileTree) (p : Path) : Address :=
  if p.isAbsolute then [] else t.current

/-- The address as an absolute path. -/
def addressText (a : Address) : String :=
  if a.isEmpty then "/" else String.ofList (a.flatMap fun name => '/' :: name)

/-- The address of a new tree's current folder. -/
def workFolder : Address := [['r', 'u', 'n'], ['w', 'o', 'r', 'k']]

/-- A tree with an empty current folder, the folder above it, and the links by which a program can
name its own current folder. -/
def empty : FileTree where
  root := .folder 0
    [ (['r', 'u', 'n'], .folder 0 [(['w', 'o', 'r', 'k'], .folder 0 [])]),
      (['p', 'r', 'o', 'c'], .folder 0
        [ (['s', 'e', 'l', 'f'], .link "100"),
          (['1', '0', '0'], .folder 0 [(['c', 'w', 'd'], .link (addressText workFolder))]) ]) ]
  current := workFolder

/-- The tree as a program sees it whose current folder is at an address. -/
def seenAt (t : FileTree) (folder : Address) : FileTree :=
  { root := t.root.replace (some (.link (addressText folder)))
      [['p', 'r', 'o', 'c'], ['1', '0', '0'], ['c', 'w', 'd']]
    current := folder }

/-- A change that a program makes whose current folder is at an address. -/
def changedAt (t : FileTree) (folder : Address) (change : FileTree → FileTree) : FileTree :=
  (change (t.seenAt folder)).seenAt t.current

end FileTree

end LintPool
