import Mathlib.Tactic.Common
import LintPool.FileTree.Walk
import LintPool.Proofs.Path.Components

set_option autoImplicit false

/-!
# Where walks lead

A walk that follows the link at its end and comes to an object has taken one step after the other:
it stayed where it was, went up, followed a link or went down. Here such walks are a relation, with
a case for each step. From it follows that an object which is looked at is no link; that in a tree
without links a path leads where its names say; and that different spellings of a path lead to the
same object.

## Main definitions

* `LintPool.Leads` — a walk comes to an address.
* `LintPool.FileTree.LinkFree` — a tree has no links.
* `LintPool.Path.resolved` — the address that the names of a path say, `..` going one up.
* `LintPool.Path.EndsIn` — the last piece of a path.

## Main results

* `LintPool.walk_eq_found_iff` — a walk comes to an address just if it leads there.
* `LintPool.FileTree.inspect_ne_link` — an object that is looked at is no link.
* `LintPool.FileTree.locate_eq_resolved` — in a tree without links a path leads where its names say.
* `LintPool.FileTree.isFile_same` — two spellings that can be looked at are both files, or neither.
-/

namespace LintPool

/-! ## Addresses -/

namespace Node

/-- Whether a node is a link. -/
def isLink : Node → Bool
  | .link _ => true
  | _ => false

/-- An address in two parts. -/
lemma at?_append (n : Node) (a b : Address) : n.at? (a ++ b) = (n.at? a).bind (·.at? b) := by
  induction a generalizing n with
  | nil => rfl
  | cons name a ih =>
    rw [List.cons_append, at?, at?]
    cases n.child? name with
    | none => rfl
    | some c => exact ih c

/-- One name further down from a folder. -/
lemma at?_concat {n : Node} {a : Address} {time : Timestamp} {entries : List (Name × Node)}
    (h : n.at? a = some (.folder time entries)) (name : Name) :
    n.at? (a ++ [name]) = entry? name entries := by
  rw [at?_append, h, Option.bind_some]
  cases hentry : entry? name entries <;> simp [at?, child?, hentry]

/-- Above a folder there is a folder. -/
lemma at?_dropLast {n : Node} {a : Address} {time : Timestamp} {entries : List (Name × Node)}
    (h : n.at? a = some (.folder time entries)) :
    ∃ time entries, n.at? a.dropLast = some (.folder time entries) := by
  rcases List.eq_nil_or_concat a with rfl | ⟨b, name, rfl⟩
  · exact ⟨time, entries, h⟩
  · rw [List.concat_eq_append, at?_append, Option.bind_eq_some_iff] at h
    obtain ⟨m, hm, hchild⟩ := h
    rw [List.concat_eq_append, List.dropLast_concat, hm]
    cases m with
    | folder time' entries' => exact ⟨time', entries', rfl⟩
    | file => simp [at?, child?] at hchild
    | link => simp [at?, child?] at hchild

end Node

/-! ## Walks that come to an object -/

/-- A walk along the pieces of a path, which may follow so many links, comes from one address to
another. -/
inductive Leads (root : Node) : Nat → Address → List Name → Address → Prop where
  /-- It is over. -/
  | ended (links : Nat) (here : Address) : Leads root links here [] here
  /-- It stays in a folder. -/
  | stay {links : Nat} {here a : Address} {piece : Name} {rest : List Name} {time : Timestamp}
    {entries : List (Name × Node)} (folder : root.at? here = some (.folder time entries))
    (stays : staysHere piece = true) (further : Leads root links here rest a) :
    Leads root links here (piece :: rest) a
  /-- It goes up from a folder. -/
  | up {links : Nat} {here a : Address} {rest : List Name} {time : Timestamp}
    {entries : List (Name × Node)} (folder : root.at? here = some (.folder time entries))
    (further : Leads root links here.dropLast rest a) :
    Leads root links here (['.', '.'] :: rest) a
  /-- It follows a link. -/
  | follow {links : Nat} {here a : Address} {piece : Name} {rest : List Name} {time : Timestamp}
    {entries : List (Name × Node)} {target : String}
    (folder : root.at? here = some (.folder time entries)) (moves : staysHere piece = false)
    (down : piece ≠ ['.', '.']) (fits : byteCount piece ≤ maxNameBytes)
    (entry : entry? piece entries = some (.link target))
    (further : Leads root links (if target.toList.head? = some '/' then [] else here)
      (Path.pieces target.toList ++ rest) a) :
    Leads root (links + 1) here (piece :: rest) a
  /-- It goes down from a folder. -/
  | down {links : Nat} {here a : Address} {piece : Name} {rest : List Name} {time : Timestamp}
    {entries : List (Name × Node)} {n : Node}
    (folder : root.at? here = some (.folder time entries)) (moves : staysHere piece = false)
    (down : piece ≠ ['.', '.']) (fits : byteCount piece ≤ maxNameBytes)
    (entry : entry? piece entries = some n) (object : n.isLink = false)
    (further : Leads root links (here ++ [piece]) rest a) :
    Leads root links here (piece :: rest) a

/-- What a walk comes to leads there. -/
lemma leads_of_walk {root : Node} {links : Nat} {here a : Address} {pieces : List Name}
    (h : walk root true links here pieces = .ok (.found a)) : Leads root links here pieces a := by
  induction links, here, pieces using walk.induct root true with
  | case1 links here =>
    rw [walk] at h
    cases h
    exact .ended _ _
  | case2 links here piece rest time entries hfolder hstays ih =>
    rw [walk, hfolder] at h
    exact .stay hfolder hstays (ih (by simpa [hstays] using h))
  | case3 links here rest time entries hfolder hmoves ih =>
    rw [walk, hfolder] at h
    exact .up hfolder (ih (by simpa [hmoves] using h))
  | case4 links here piece rest time entries hfolder hmoves hdown hlong =>
    rw [walk, hfolder] at h
    simp [hmoves, hdown, hlong] at h
  | case5 links here piece rest time entries hfolder hmoves hdown hfits hentry hall =>
    rw [walk, hfolder] at h
    simp only [hmoves, hdown, hfits, hentry, hall, if_true, if_false] at h
    cases h
  | case6 links here piece rest time entries hfolder hmoves hdown hfits hentry hall =>
    rw [walk, hfolder] at h
    simp only [hmoves, hdown, hfits, hentry, hall, if_false] at h
    cases h
  | case7 links here piece rest time entries hfolder hmoves hdown hfits target hentry hlast =>
    simp at hlast
  | case8 here piece rest time entries hfolder hmoves hdown hfits target hentry hlast =>
    rw [walk, hfolder] at h
    simp [hmoves, hdown, hfits, hentry] at h
  | case9 here piece rest time entries hfolder hmoves hdown hfits target hentry hlast links onward
      ih =>
    rw [walk, hfolder] at h
    refine .follow hfolder (by simpa using hmoves) hdown (by omega) hentry (ih ?_)
    simpa [hmoves, hdown, hfits, hentry] using h
  | case10 links here piece rest time entries hfolder hmoves hdown hfits n hlink hentry ih =>
    rw [walk, hfolder] at h
    have hn : n.isLink = false := by
      cases n with
      | link target => exact absurd rfl (hlink target)
      | file => rfl
      | folder => rfl
    refine .down hfolder (by simpa using hmoves) hdown (by omega) hentry hn (ih ?_)
    simpa [hmoves, hdown, hfits, hentry] using h
  | case11 links here piece rest n hfolder hat =>
    rw [walk, hat] at h
    simp at h
  | case12 links here piece rest hat =>
    rw [walk, hat] at h
    cases h

/-- A walk comes to where it leads. -/
lemma Leads.walk_eq {root : Node} {links : Nat} {here a : Address} {pieces : List Name}
    (h : Leads root links here pieces a) : walk root true links here pieces = .ok (.found a) := by
  induction h with
  | ended links here => rw [walk]
  | stay folder stays _ ih =>
    rw [walk, folder]
    simpa [stays] using ih
  | up folder _ ih =>
    rw [walk, folder]
    simpa [staysHere] using ih
  | follow folder moves down fits entry _ ih =>
    rw [walk, folder]
    simpa [moves, down, fits, entry, Nat.not_lt.2 fits] using ih
  | @down links here a piece rest time entries n folder moves down fits entry object _ ih =>
    rw [walk, folder]
    cases n with
    | link => cases object
    | file => simpa [moves, down, entry, Nat.not_lt.2 fits] using ih
    | folder => simpa [moves, down, entry, Nat.not_lt.2 fits] using ih

/-- A walk that follows the link at its end comes to an address just if it leads there. -/
theorem walk_eq_found_iff {root : Node} {links : Nat} {here a : Address} {pieces : List Name} :
    walk root true links here pieces = .ok (.found a) ↔ Leads root links here pieces a :=
  ⟨leads_of_walk, Leads.walk_eq⟩

/-! ## Objects that are looked at -/

/-- A walk that has any piece to go along comes to an object that is no link. -/
lemma Leads.object {root : Node} {links : Nat} {here a : Address} {pieces : List Name}
    (h : Leads root links here pieces a) (hne : pieces ≠ []) :
    ∃ n, root.at? a = some n ∧ n.isLink = false := by
  induction h with
  | ended => exact absurd rfl hne
  | @stay links here a piece rest time entries folder stays further ih =>
    cases rest with
    | nil =>
      cases further
      exact ⟨_, folder, rfl⟩
    | cons => exact ih (List.cons_ne_nil _ _)
  | @up links here a rest time entries folder further ih =>
    cases rest with
    | nil =>
      cases further
      obtain ⟨time', entries', hup⟩ := Node.at?_dropLast folder
      exact ⟨_, hup, rfl⟩
    | cons => exact ih (List.cons_ne_nil _ _)
  | follow folder moves down fits entry further ih =>
    exact ih (List.append_ne_nil_of_left_ne_nil (Path.pieces_ne_nil _) _)
  | @down links here a piece rest time entries n folder moves down fits entry object further ih =>
    cases rest with
    | nil =>
      cases further
      exact ⟨n, (Node.at?_concat folder piece).trans entry, object⟩
    | cons => exact ih (List.cons_ne_nil _ _)

namespace FileTree

/-- What a path leads to, where nothing stands against the walk. -/
lemma locate_eq_ok_iff {t : FileTree} {p : Path} {a : Address} :
    t.locate p = .ok a ↔ '\x00' ∉ p.chars ∧ p.chars ≠ [] ∧
      byteCount p.chars ≤ maxPathBytes ∧
        Leads t.root maxLinks (t.start p) (Path.pieces p.chars) a := by
  have hplace : t.locate p = .ok a ↔ t.place true p = .ok (.found a) := by
    unfold locate
    rcases t.place true p with e | ⟨b⟩ | ⟨folder, name⟩ <;> simp
  rw [hplace, ← walk_eq_found_iff]
  unfold place
  by_cases hnul : p.chars.any (· = '\x00') = true
  · have hsome : '\x00' ∈ p.chars := by simpa using hnul
    simp [hnul, hsome]
  · have hnone : '\x00' ∉ p.chars := by simpa using hnul
    by_cases hempty : p.chars = []
    · simp [hempty]
    · by_cases hlong : maxPathBytes < byteCount p.chars
      · have hnot : ¬ byteCount p.chars ≤ maxPathBytes := by omega
        simp [hnul, hempty, hlong, hnot]
      · have hfits : byteCount p.chars ≤ maxPathBytes := by omega
        simp only [hnul, hlong, List.isEmpty_iff, hempty, if_false, Bool.false_eq_true]
        exact ⟨fun h => ⟨hnone, hempty, hfits, h⟩, fun h => h.2.2.2⟩

/-- **An object that is looked at is no link**: the link at the end of a path is followed. -/
lemma inspect_ne_link (t : FileTree) (p : Path) (target : String) :
    t.inspect p ≠ .ok (.link target) := by
  intro h
  unfold inspect at h
  rcases hloc : t.locate p with e | a <;> rw [hloc] at h
  · cases h
  · obtain ⟨-, -, -, hleads⟩ := locate_eq_ok_iff.1 hloc
    obtain ⟨n, hat, hobject⟩ := hleads.object (Path.pieces_ne_nil _)
    simp only [hat] at h
    cases h
    cases hobject

end FileTree

/-! ## Trees without links -/

/-- The address that a component leads to from another. -/
def Path.Component.from (here : Address) : Path.Component → Address
  | .name n => if n = ['.', '.'] then here.dropLast else here ++ [n]
  | _ => here

/-- The address that the names of a path say, `..` going one up. -/
def Path.resolved (p : Path) : Address :=
  p.components.foldl Path.Component.from []

/-- Nothing in a node is a link. -/
def Node.LinkFree (n : Node) : Prop :=
  ∀ a m, n.at? a = some m → m.isLink = false

/-- A tree has no links. -/
def FileTree.LinkFree (t : FileTree) : Prop :=
  t.root.LinkFree

/-- A file is no link, and there is nothing in it. -/
lemma Node.linkFree_file (content : Bytes) (time : Timestamp) (executable : Bool) :
    (Node.file content time executable).LinkFree := by
  intro a m h
  cases a with
  | nil =>
    cases h
    rfl
  | cons name a => cases h

/-- A folder has no links if what it holds has none. -/
lemma Node.linkFree_folder {time : Timestamp} {entries : List (Name × Node)}
    (h : ∀ e ∈ entries, e.2.LinkFree) : (Node.folder time entries).LinkFree := by
  intro a m hat
  cases a with
  | nil =>
    cases hat
    rfl
  | cons name a =>
    rw [at?, child?] at hat
    rcases hentry : entry? name entries with _ | c <;> rw [hentry] at hat
    · cases hat
    · obtain ⟨e, hfind, rfl⟩ := Option.map_eq_some_iff.1 hentry
      exact h e (List.mem_of_find?_eq_some hfind) a m hat

/-- A walk where there are no links: it stays, goes up or goes down. -/
def descend (root : Node) (here : Address) : List Name → Except AccessError Place
  | [] => .ok (.found here)
  | piece :: rest =>
    match root.at? here with
    | some (.folder _ entries) =>
      if staysHere piece then descend root here rest
      else if piece = ['.', '.'] then descend root here.dropLast rest
      else if maxNameBytes < byteCount piece then .error .nameTooLong
      else match entry? piece entries with
        | none => if rest.all staysHere then .ok (.absent here piece) else .error .missing
        | some _ => descend root (here ++ [piece]) rest
    | some _ => .error .notFolder
    | none => .error .missing

/-- Where there are no links, every walk is of this kind. -/
lemma walk_eq_descend {root : Node} (hroot : root.LinkFree) (follow : Bool) (links : Nat)
    (here : Address) (pieces : List Name) :
    walk root follow links here pieces = descend root here pieces := by
  induction pieces generalizing here with
  | nil => rw [walk, descend]
  | cons piece rest ih =>
    rw [walk, descend]
    cases hat : root.at? here with
    | none => rfl
    | some n =>
      cases n with
      | file => rfl
      | link => rfl
      | folder time entries =>
        simp only [ih]
        cases hentry : entry? piece entries with
        | none => rfl
        | some m =>
          cases m with
          | file => rfl
          | folder => rfl
          | link target =>
            have := hroot _ _ ((Node.at?_concat hat piece).trans hentry)
            cases this

namespace FileTree

/-- The object that a path leads to in a tree without links. -/
def inspectDown (t : FileTree) (p : Path) : Except AccessError Node :=
  if p.chars.any (· = '\x00') then .error .containsNul
  else if p.chars.isEmpty then .error .missing
  else if maxPathBytes < byteCount p.chars then .error .nameTooLong
  else match descend t.root (t.start p) (Path.pieces p.chars) with
    | .ok (.found a) => match t.root.at? a with
      | some n => .ok n
      | none => .error .missing
    | .ok (.absent ..) => .error .missing
    | .error e => .error e

/-- In a tree without links an object is looked at without following any. -/
lemma inspect_eq_inspectDown {t : FileTree} (ht : t.LinkFree) : t.inspect = t.inspectDown := by
  funext p
  unfold inspect locate place inspectDown
  rw [walk_eq_descend ht]
  split_ifs
  · rfl
  · rfl
  · rfl
  · rcases descend t.root (t.start p) (Path.pieces p.chars) with e | ⟨a⟩ | ⟨folder, name⟩ <;> rfl

/-- Whether a path leads to a file in a tree without links. -/
def isFileDown (t : FileTree) (p : Path) : Except AccessError Bool :=
  match t.inspectDown p with
  | .ok n => .ok n.isFile
  | .error e => if e.isAbsence then .ok false else .error e

/-- In a tree without links a search follows none. -/
lemma isFile_eq_isFileDown {t : FileTree} (ht : t.LinkFree) : t.isFile = t.isFileDown := by
  funext p
  cases hlook : t.inspectDown p <;> simp [isFile, isFileDown, inspect_eq_inspectDown ht, hlook]

end FileTree

/-- Where there are no links, a walk comes to what the names on its way say. -/
lemma Leads.eq_foldl {t : FileTree} (ht : t.LinkFree) {links : Nat} {here a : Address}
    {pieces : List Name} (h : Leads t.root links here pieces a) :
    a = (Path.names pieces).foldl Path.Component.from here := by
  have hcons : ∀ (piece : Name) (rest : List Name), staysHere piece = false →
      Path.names (piece :: rest) = .name piece :: Path.names rest := by
    intro piece rest hmoves
    have hname : Path.isName piece = true := by simpa [Path.isName, staysHere] using hmoves
    simp [Path.names, hname]
  induction h with
  | ended => rfl
  | @stay links here a piece rest time entries folder stays further ih =>
    have hname : ¬ Path.isName piece = true := by
      simp only [staysHere, Bool.or_eq_true, decide_eq_true_eq] at stays
      rcases stays with rfl | rfl <;> simp [Path.isName]
    rw [ih]
    simp [Path.names, hname]
  | up folder further ih =>
    rw [ih, hcons _ _ (by decide)]
    rfl
  | @follow links here a piece rest time entries target folder moves down fits entry further ih =>
    have hlink := ht _ _ ((Node.at?_concat folder piece).trans entry)
    cases hlink
  | down folder moves down fits entry object further ih =>
    rw [ih, hcons _ _ moves, List.foldl_cons, Path.Component.from, if_neg down]

/-- The names of the pieces of an absolute path are what comes after the root. -/
lemma Path.components_of_isAbsolute {p : Path} (h : p.isAbsolute = true) :
    p.components = .root :: names (pieces p.chars) := by
  obtain ⟨first, rest, hps⟩ := List.exists_cons_of_ne_nil (pieces_ne_nil p.chars)
  have hfirst : first = [] := by
    have := (head?_pieces p.chars).2 (.inl (by simpa [isAbsolute] using h))
    simpa [hps] using this
  rw [components, hps, hfirst]
  simp [h, names, isName]

/-- **In a tree without links** an absolute path leads where its names say. -/
theorem FileTree.locate_eq_resolved {t : FileTree} (ht : t.LinkFree) {p : Path}
    (hp : p.isAbsolute = true) {a : Address} (h : t.locate p = .ok a) : a = p.resolved := by
  obtain ⟨-, -, -, hleads⟩ := locate_eq_ok_iff.1 h
  rw [hleads.eq_foldl ht, Path.resolved, Path.components_of_isAbsolute hp, start, if_pos hp]
  rfl

/-! ## Spellings -/

/-- A piece that stays where it is can be left out where another one follows. -/
lemma leads_cons_of_staysHere {root : Node} {links : Nat} {here a : Address} {piece : Name}
    {rest : List Name} (hstays : staysHere piece = true) (hrest : rest ≠ []) :
    Leads root links here (piece :: rest) a ↔ Leads root links here rest a := by
  constructor
  · intro h
    cases h with
    | stay folder stays further => exact further
    | up folder further => cases hstays
    | follow folder moves => rw [hstays] at moves; cases moves
    | down folder moves => rw [hstays] at moves; cases moves
  · intro h
    -- whatever comes next starts from a folder too
    cases h with
    | ended => exact absurd rfl hrest
    | stay folder stays further => exact .stay folder hstays (.stay folder stays further)
    | up folder further => exact .stay folder hstays (.up folder further)
    | follow folder moves down fits entry further =>
      exact .stay folder hstays (.follow folder moves down fits entry further)
    | down folder moves down fits entry object further =>
      exact .stay folder hstays (.down folder moves down fits entry object further)

/-- Walks that start with the same step come to the same if what is left of them does, also behind
the target of a link. -/
lemma leads_cons_mono {root : Node} {links : Nat} {here a : Address} {piece : Name}
    {rest rest' : List Name}
    (hrest : ∀ here a, Leads root links here rest a → Leads root links here rest' a)
    (hlink : ∀ fewer, links = fewer + 1 → ∀ (target : List Name) here a,
      Leads root fewer here (target ++ rest) a → Leads root fewer here (target ++ rest') a)
    (h : Leads root links here (piece :: rest) a) : Leads root links here (piece :: rest') a := by
  cases h with
  | stay folder stays further => exact .stay folder stays (hrest _ _ further)
  | up folder further => exact .up folder (hrest _ _ further)
  | follow folder moves down fits entry further =>
    exact .follow folder moves down fits entry (hlink _ rfl _ _ _ further)
  | down folder moves down fits entry object further =>
    exact .down folder moves down fits entry object (hrest _ _ further)

/-- **The pieces that stay where they are do not matter** before the last one.

**Proof sketch.** Induction on the number of links that may still be followed, and within it on the
pieces. A piece that stays is left out; behind any other the walk goes on along what is left, or
along the target of a link and then what is left, with one link fewer. -/
lemma leads_filter_append {root : Node} (links : Nat) (here a : Address) (pieces : List Name)
    (last : Name) :
    Leads root links here (pieces ++ [last]) a ↔
      Leads root links here (pieces.filter (!staysHere ·) ++ [last]) a := by
  induction links using Nat.strongRecOn generalizing here a pieces with
  | ind links ihLinks =>
    induction pieces generalizing here a with
    | nil => rfl
    | cons piece pieces ih =>
      by_cases hstays : staysHere piece = true
      · rw [List.cons_append, leads_cons_of_staysHere hstays (by simp), ih,
          List.filter_cons_of_neg (by simpa using hstays)]
      · have hbehind : ∀ fewer, links = fewer + 1 → ∀ (target : List Name) here a,
            Leads root fewer here (target ++ (pieces ++ [last])) a ↔
              Leads root fewer here (target ++ (pieces.filter (!staysHere ·) ++ [last])) a := by
          intro fewer hfewer target here a
          rw [← List.append_assoc, ihLinks fewer (by omega), ← List.append_assoc,
            ihLinks fewer (by omega) here a (target ++ _)]
          simp only [List.filter_append, List.filter_filter, Bool.and_self]
        rw [List.filter_cons_of_pos (by simpa using hstays)]
        constructor
        · exact leads_cons_mono (fun here a => (ih here a).1)
            fun fewer hf target here a => (hbehind fewer hf target here a).1
        · exact leads_cons_mono (fun here a => (ih here a).2)
            fun fewer hf target here a => (hbehind fewer hf target here a).2

/-- The last piece of a path. -/
def Path.EndsIn (p : Path) (last : Name) : Prop :=
  ∃ before, pieces p.chars = before ++ [last]

/-- What is joined to a path under a name ends in it. -/
lemma Path.endsIn_join (p : Path) {name : String} (h : '/' ∉ name.toList) :
    (p.join ⟨name⟩).EndsIn name.toList := by
  have habs : (⟨name⟩ : Path).isAbsolute = false := by
    rw [isAbsolute, decide_eq_false_iff_not]
    exact fun hhead => h (List.mem_of_head? hhead)
  by_cases hp : p.chars = []
  · have hempty : p.text = "" := by simpa [chars] using hp
    have hjoin : p.join ⟨name⟩ = ⟨name⟩ := by simp [join, habs, hp, hempty]
    exact ⟨[], by rw [hjoin]; exact pieces_eq_singleton h⟩
  · obtain ⟨a, -, hjoin⟩ := chars_join habs hp
    exact ⟨pieces a, by rw [hjoin, pieces_append_slash]; exact congrArg _ (pieces_eq_singleton h)⟩

/-- The names of the pieces of a path are its components, but for the root and a leading dot. -/
lemma Path.names_pieces_eq (p : Path) :
    names (pieces p.chars) = p.components.filter fun c => c ≠ .root ∧ c ≠ .here := by
  have hnames : ∀ ps : List (List Char),
      (names ps).filter (fun c => c ≠ .root ∧ c ≠ .here) = names ps := fun ps => by
    rw [names, List.filter_map, List.filter_eq_self.2 (by simp)]
  by_cases habs : p.isAbsolute = true
  · rw [components_of_isAbsolute habs, List.filter_cons_of_neg (by simp), hnames]
  · rw [Bool.not_eq_true] at habs
    have hroot : Component.root ∉ p.components.filter (· ≠ .here) := by
      rw [← names_pieces habs]
      simp [names]
    rw [names_pieces habs]
    refine (List.filter_congr fun c hc => ?_)
    by_cases hh : c = .here
    · simp [hh]
    · have hne : c ≠ .root := fun e => hroot (e ▸ List.mem_filter.2 ⟨hc, by simpa using hh⟩)
      simp [hh, hne]

/-- Two spellings of a path that end in a name have the same pieces that move on. -/
lemma Path.Same.filter_pieces {p p' : Path} (h : p.Same p') {last last' : Name}
    {before before' : List Name} (hp : pieces p.chars = before ++ [last])
    (hp' : pieces p'.chars = before' ++ [last']) (hlast : staysHere last = false)
    (hlast' : staysHere last' = false) :
    before.filter (!staysHere ·) = before'.filter (!staysHere ·) ∧ last = last' := by
  have hname : isName = fun piece => !staysHere piece := by
    funext piece
    rw [Bool.eq_iff_iff]
    simp [isName, staysHere]
  have hkept :
      (pieces p.chars).filter (!staysHere ·) = (pieces p'.chars).filter (!staysHere ·) := by
    have heq : names (pieces p.chars) = names (pieces p'.chars) := by
      rw [names_pieces_eq, names_pieces_eq, show p.components = p'.components from h]
    have hinj : Function.Injective Component.name := fun a b hab => Component.name.inj hab
    simpa only [names, hname] using hinj.list_map heq
  rw [hp, hp', List.filter_append, List.filter_append] at hkept
  simp only [List.filter_cons_of_pos, hlast, hlast', Bool.not_false, List.filter_nil] at hkept
  exact List.append_inj' hkept rfl |>.imp id fun heq => by simpa using heq

/-- Where a spelling of a path that ends in a name leads, another one leads too, unless it cannot be
read. -/
lemma FileTree.locate_same {t : FileTree} {p p' : Path} (h : p.Same p') {last last' : Name}
    (hp : p.EndsIn last) (hp' : p'.EndsIn last') (hlast : staysHere last = false)
    (hlast' : staysHere last' = false) {a : Address} (hloc : t.locate p = .ok a) :
    t.locate p' = .ok a ∨ t.locate p' = .error .nameTooLong ∨
      t.locate p' = .error .containsNul := by
  obtain ⟨before, hpieces⟩ := hp
  obtain ⟨before', hpieces'⟩ := hp'
  obtain ⟨hbefore, rfl⟩ := h.filter_pieces hpieces hpieces' hlast hlast'
  obtain ⟨-, -, -, hleads⟩ := locate_eq_ok_iff.1 hloc
  have hleads' : Leads t.root maxLinks (t.start p') (Path.pieces p'.chars) a := by
    rw [hpieces, leads_filter_append, hbefore, ← leads_filter_append, ← hpieces'] at hleads
    rwa [start, ← h.isAbsolute]
  by_cases hnul : '\x00' ∈ p'.chars
  · refine .inr (.inr ?_)
    have hany : p'.chars.any (· = '\x00') = true := by simpa using hnul
    simp [locate, place, hany]
  · have hne : p'.chars ≠ [] := by
      intro hempty
      have := Path.components_eq_nil_iff.2 hempty
      have hnames := Path.names_pieces_eq p'
      rw [this, hpieces'] at hnames
      have hname : Path.isName last = true := by simpa [Path.isName, staysHere] using hlast
      simp [Path.names, hname] at hnames
    by_cases hlong : maxPathBytes < byteCount p'.chars
    · refine .inr (.inl ?_)
      have hnone : ¬ p'.chars.any (· = '\x00') = true := by simpa using hnul
      simp [locate, place, hnone, hne, hlong]
    · exact .inl (locate_eq_ok_iff.2 ⟨hnul, hne, by omega, hleads'⟩)

/-- **Two spellings of a path that ends in a name**, if both can be looked at, are both files or
neither is. -/
theorem FileTree.isFile_same {t : FileTree} {p p' : Path} (h : p.Same p') {last last' : Name}
    (hp : p.EndsIn last) (hp' : p'.EndsIn last') (hlast : staysHere last = false)
    (hlast' : staysHere last' = false) {b b' : Bool} (hb : t.isFile p = .ok b)
    (hb' : t.isFile p' = .ok b') : b = b' := by
  -- a file that one spelling leads to is where the other one leads
  have hone : ∀ {p p' : Path} {last last' : Name} {b' : Bool}, p.Same p' → p.EndsIn last →
      p'.EndsIn last' → staysHere last = false → staysHere last' = false →
        t.isFile p = .ok true → t.isFile p' = .ok b' → b' = true := by
    intro p p' last last' b' h hp hp' hlast hlast' htrue hb'
    unfold isFile inspect at htrue hb'
    rcases hloc : t.locate p with e | a <;> rw [hloc] at htrue
    · dsimp only at htrue
      split at htrue <;> cases htrue
    · rcases locate_same h hp hp' hlast hlast' hloc with hloc' | hloc' | hloc' <;> rw [hloc'] at hb'
      · exact (Except.ok.inj (htrue.symm.trans hb')).symm
      · cases hb'
      · cases hb'
  cases b with
  | true => exact (hone h hp hp' hlast hlast' hb hb').symm
  | false =>
    cases b' with
    | false => rfl
    | true => exact hone h.symm hp' hp hlast' hlast hb' hb

end LintPool
