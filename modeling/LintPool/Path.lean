import LintPool.Text.Utf8

set_option autoImplicit false

/-!
# Paths

A path is a text, written and sent as it was given. What it names is a list of components: repeated
slashes, a slash at the end and any `.` but a leading one do not count, and `..` is a component like
any other. Paths are compared by their components.

## Main definitions

* `LintPool.Path` — a path as text.
* `LintPool.Path.components` — what it names.
* `LintPool.Path.Same`, `LintPool.Path.within` — equality and containment by components.
* `LintPool.Path.join`, `LintPool.Path.parent?` — going down and up.
* `LintPool.Path.ancestors` — a path and everything above it.
-/

namespace LintPool

/-- A path as text. -/
structure Path where
  /-- The text. -/
  text : String
  deriving Repr, DecidableEq, Inhabited

namespace Path

/-- A component of a path. -/
inductive Component where
  /-- The slash that an absolute path starts with. -/
  | root
  /-- The dot that a relative path may start with. -/
  | here
  /-- A name between slashes. -/
  | name (chars : List Char)
  deriving Repr, DecidableEq

/-- The pieces of a text between its slashes. -/
def pieces : List Char → List (List Char)
  | [] => [[]]
  | c :: cs =>
    if c = '/' then [] :: pieces cs
    else match pieces cs with
      | p :: ps => (c :: p) :: ps
      | [] => [[c]]

/-- The characters of a path. -/
def chars (p : Path) : List Char :=
  p.text.toList

/-- Whether a path starts at the root. -/
def isAbsolute (p : Path) : Bool :=
  p.chars.head? = some '/'

/-- Whether a piece names something: it is neither empty nor a dot. -/
def isName (piece : List Char) : Bool :=
  !piece.isEmpty && piece != ['.']

/-- The names among some pieces. -/
def names (ps : List (List Char)) : List Component :=
  (ps.filter isName).map .name

/-- The components of a path. -/
def components (p : Path) : List Component :=
  match pieces p.chars with
  | [] => []
  | first :: rest =>
    if p.isAbsolute then .root :: names rest
    else if first = ['.'] then .here :: names rest
    else names (first :: rest)

/-- Two paths have the same components. -/
def Same (p q : Path) : Prop :=
  p.components = q.components

instance (p q : Path) : Decidable (Same p q) :=
  inferInstanceAs (Decidable (p.components = q.components))

/-- Whether `q` is above or the same as `p`. -/
def within (p q : Path) : Bool :=
  q.components.isPrefixOf p.components

/-- The path that leads from `p` along `q`; an absolute `q` replaces `p`. -/
def join (p q : Path) : Path :=
  if q.isAbsolute then q
  else if p.chars.isEmpty || p.chars.getLast? = some '/' then ⟨p.text ++ q.text⟩
  else ⟨p.text ++ "/" ++ q.text⟩

/-- Pieces joined by slashes. -/
def unpieces : List (List Char) → List Char
  | [] => []
  | [p] => p
  | p :: ps => p ++ '/' :: unpieces ps

/-- Whether a piece, after the pieces `before` it, is a component: a name is, and so is the dot that
a relative path starts with. -/
def counts (absolute : Bool) (before : List (List Char)) (piece : List Char) : Bool :=
  isName piece || (before.isEmpty && !absolute && piece = ['.'])

/-- The pieces of a path, backwards, from the last one that is a component on. -/
def dropTrailing (absolute : Bool) : List (List Char) → List (List Char)
  | [] => []
  | p :: before => if counts absolute before p then p :: before else dropTrailing absolute before

/-- The path one component up, without what does not count at its end; the root and the empty path
have none. -/
def parent? (p : Path) : Option Path :=
  let absolute := p.isAbsolute
  match dropTrailing absolute (pieces p.chars).reverse with
  | [] => none
  | _ :: before =>
    match dropTrailing absolute before with
    | [] => some ⟨if absolute then "/" else ""⟩
    | kept => some ⟨String.ofList (unpieces kept.reverse)⟩

/-- The paths above `p`, nearest first, at most `fuel` of them. -/
def above (p : Path) : Nat → List Path
  | 0 => []
  | fuel + 1 =>
    match p.parent? with
    | none => []
    | some q => q :: above q fuel

/-- A path and the paths above it, nearest first. -/
def ancestors (p : Path) : List Path :=
  p :: p.above (p.chars.length + 1)

/-- The path next to `p` with another last name. -/
def sibling (p : Path) (name : String) : Path :=
  match p.parent? with
  | some q => q.join ⟨name⟩
  | none => p.join ⟨name⟩

/-- The text of a component. -/
def Component.text : Component → String
  | .root => "/"
  | .here => "."
  | .name cs => String.ofList cs

/-- The path made of some components. -/
def ofComponents (cs : List Component) : Path :=
  cs.foldl (fun p c => p.join ⟨c.text⟩) ⟨""⟩

/-- The path that `p` names when it is read inside `folder`. -/
def seenFrom (p folder : Path) : Path :=
  if p.isAbsolute then p else folder.join p

/-- The number of slashes that a path starts with. -/
def leadingSlashes (p : Path) : Nat :=
  (p.chars.takeWhile (· = '/')).length

/-- The path that its names start from when `p` is read inside `folder`; two slashes at the start,
no more and no less, are kept. -/
def origin (p folder : Path) : Path :=
  match p.leadingSlashes with
  | 0 => folder
  | 2 => ⟨"//"⟩
  | _ => ⟨"/"⟩

/-- The absolute path that `p` names when it is read inside `folder`: what does not count is
dropped but for a slash at the end, and `..` stays. -/
def absolute (p folder : Path) : Path :=
  let q := ((pieces p.chars).filter isName).foldl (fun q n => q.join ⟨String.ofList n⟩)
    (p.origin folder)
  if p.chars.getLast? = some '/' then q.join ⟨""⟩ else q

end Path

end LintPool
