import LintPool.Proofs.FileTree.Walks
import LintPool.Proofs.Search.Locality

set_option autoImplicit false

/-!
# The nearest marker

A search goes from a folder to the one above it until there is none, and looks for the names in
order in each. It ends at the first file that it comes upon, or at the first path that cannot be
looked at, whichever is first, and has then looked at everything up to there and at nothing else. So
whoever says the same of these paths makes it come to the same, to the letter.

## Main definitions

* `LintPool.Inspection`, `LintPool.Inspection.probe` — what is at each path, and whether that is a
  file.
* `LintPool.Path.Climbs` — a path and the paths above it, up to one that has no parent.
* `LintPool.SearchOutcome` — what a search along some paths comes to.

## Main results

* `LintPool.Path.climbs_ancestors` — a search goes all the way up.
* `LintPool.searchAlong_eq_iff` — what a search comes to.
* `LintPool.findUpward_congr`, `LintPool.findPnp_congr` — it depends on what it recorded.
* `LintPool.nearest_and_sufficient` — all of it, for every start and every list of names.

## Design

How paths are looked at is left open: an inspection is any function that says what is at a path or
why that cannot be told. A tree of files is one (`LintPool.FileTree.isFile_eq_probe`), and one whose
folders may be closed to the reader is another.
-/

namespace LintPool

/-! ## Looking at a path -/

/-- What is at each path, or why that cannot be told. -/
abbrev Inspection := Path → Except AccessError Node

/-- Whether there is a file at a path: there is none where nothing is, or where the path leads
through a file. -/
def Inspection.probe (look : Inspection) : Probe := fun p =>
  match look p with
  | .ok n => .ok n.isFile
  | .error e => if e.isAbsence then .ok false else .error e

/-- A tree of files is looked at like this. -/
lemma FileTree.isFile_eq_probe (t : FileTree) : t.isFile = Inspection.probe t.inspect := rfl

section

variable (look : Inspection) (p : Path)

/-- There is a file at a path. -/
def HoldsFile : Prop :=
  ∃ n, look p = .ok n ∧ n.isFile = true

/-- There is nothing at a path, or it leads through a file, or there is something else at it. -/
def PassedOver : Prop :=
  look p = .error .missing ∨ look p = .error .notFolder ∨ ∃ n, look p = .ok n ∧ n.isFile = false

/-- A path cannot be looked at, and not because nothing is there. -/
def Faults (e : AccessError) : Prop :=
  look p = .error e ∧ e ≠ .missing ∧ e ≠ .notFolder

end

section

variable {look : Inspection} {p : Path}

/-- Two errors say that nothing is there. -/
lemma AccessError.isAbsence_iff (e : AccessError) :
    e.isAbsence = true ↔ e = .missing ∨ e = .notFolder := by
  cases e <;> simp [isAbsence]

/-- A probe finds a file where there is one. -/
lemma probe_eq_true_iff : look.probe p = .ok true ↔ HoldsFile look p := by
  unfold Inspection.probe HoldsFile
  cases look p with
  | ok n => simp
  | error e => by_cases h : e.isAbsence = true <;> simp [h]

/-- A probe finds none where the path is passed over. -/
lemma probe_eq_false_iff : look.probe p = .ok false ↔ PassedOver look p := by
  unfold Inspection.probe PassedOver
  cases look p with
  | ok n => simp
  | error e =>
    have habsence := e.isAbsence_iff
    by_cases h : e.isAbsence = true <;> simp [h] <;> tauto

/-- Nothing is passed over that holds a file. -/
lemma PassedOver.not_holdsFile (h : PassedOver look p) : ¬ HoldsFile look p := by
  rw [← probe_eq_false_iff] at h
  rw [← probe_eq_true_iff, h]
  simp

/-- A probe fails where the path cannot be looked at. -/
lemma probe_eq_error_iff {e : AccessError} : look.probe p = .error e ↔ Faults look p e := by
  unfold Inspection.probe Faults
  cases look p with
  | ok n => simp
  | error e' =>
    dsimp only
    by_cases h : e'.isAbsence = true
    · rw [if_pos h]
      refine iff_of_false (fun hcontra => by cases hcontra) ?_
      rintro ⟨heq, hmissing, hfolder⟩
      rw [Except.error.inj heq, AccessError.isAbsence_iff] at h
      exact h.elim hmissing hfolder
    · rw [if_neg h]
      rw [AccessError.isAbsence_iff, not_or] at h
      constructor
      · intro heq
        cases heq
        exact ⟨rfl, h⟩
      · intro hfaults
        exact congrArg Except.error (Except.error.inj hfaults.1)

end

/-! ## All the way up -/

/-- A path and the paths above it, nearest first, up to one that has no parent. -/
inductive Path.Climbs : Path → List Path → Prop where
  /-- A path without a parent ends it. -/
  | top {p : Path} (h : p.parent? = none) : Climbs p [p]
  /-- A path goes before its parent. -/
  | up {p q : Path} {above : List Path} (h : p.parent? = some q) (hq : Climbs q above) :
    Climbs p (p :: above)

/-- With as much fuel as there are components, all paths above are reached.

**Proof sketch.** Induction on the fuel. A parent has fewer components, and where there are none
left there is no parent. -/
lemma Path.climbs_above {p : Path} {fuel : Nat} (h : p.components.length ≤ fuel) :
    Climbs p (p :: p.above fuel) := by
  induction fuel generalizing p with
  | zero =>
    have hnil : p.components = [] := List.length_eq_zero_iff.1 (by omega)
    have hup : p.parent?.map components = none := by
      rw [map_components_parent?, hnil]
      rfl
    exact .top (Option.map_eq_none_iff.1 hup)
  | succ fuel ih =>
    rw [above]
    cases hup : p.parent? with
    | none => exact .top hup
    | some q =>
      have hparent : parentOf p.components = some q.components := by
        rw [← map_components_parent?, hup]
        rfl
      have hless := length_of_parentOf hparent
      exact .up hup (ih (by omega))

/-- **A search goes all the way up.** -/
lemma Path.climbs_ancestors (p : Path) : Climbs p p.ancestors :=
  climbs_above (length_components_le p)

/-! ## What a search comes to -/

/-- A search for one name looks for it in each folder. -/
lemma candidates_singleton (start : Path) (name : String) :
    candidates start [name] = start.ancestors.map (·.join ⟨name⟩) :=
  List.map_eq_flatMap.symm

/-- What a search along some paths comes to. -/
inductive SearchOutcome (look : Inspection) (ps : List Path) :
    Except SearchError UpwardSearch → Prop where
  /-- The first path that is not passed over holds a file. -/
  | found (before : List Path) (p : Path) (after : List Path) (hps : ps = before ++ p :: after)
    (hbefore : ∀ q ∈ before, PassedOver look q) (hp : HoldsFile look p) :
    SearchOutcome look ps (.ok ⟨some p, before ++ [p]⟩)
  /-- The first path that is not passed over cannot be looked at. -/
  | failed (before : List Path) (p : Path) (after : List Path) (hps : ps = before ++ p :: after)
    (hbefore : ∀ q ∈ before, PassedOver look q) (e : AccessError) (hp : Faults look p e) :
    SearchOutcome look ps (.error ⟨p, e⟩)
  /-- All paths are passed over. -/
  | nothing (hps : ∀ q ∈ ps, PassedOver look q) : SearchOutcome look ps (.ok ⟨none, ps⟩)

/-- A search goes on past what is passed over, and records it. -/
lemma searchAlong_passed {probe : Probe} {before : List Path}
    (h : ∀ q ∈ before, probe q = .ok false) (rest : List Path) :
    searchAlong probe (before ++ rest) =
      (searchAlong probe rest).map fun s => { s with probed := before ++ s.probed } := by
  induction before with
  | nil =>
    rw [List.nil_append]
    cases searchAlong probe rest <;> rfl
  | cons q before ih =>
    rw [List.forall_mem_cons] at h
    rw [List.cons_append, searchAlong, h.1, ih h.2]
    cases searchAlong probe rest <;> rfl

/-- A path that is passed over comes before whatever the search comes to. -/
lemma SearchOutcome.cons {look : Inspection} {p : Path} {ps : List Path} (hp : PassedOver look p) :
    ∀ {r : Except SearchError UpwardSearch}, SearchOutcome look ps r →
      SearchOutcome look (p :: ps) (r.map fun s => { s with probed := p :: s.probed })
  | _, .found before q after hps hbefore hq =>
    .found (p :: before) q after (congrArg (p :: ·) hps) (List.forall_mem_cons.2 ⟨hp, hbefore⟩) hq
  | _, .failed before q after hps hbefore e hq =>
    .failed (p :: before) q after (congrArg (p :: ·) hps) (List.forall_mem_cons.2 ⟨hp, hbefore⟩) e
      hq
  | _, .nothing hps => .nothing (List.forall_mem_cons.2 ⟨hp, hps⟩)

/-- A search comes to one of the outcomes. -/
lemma searchOutcome_searchAlong (look : Inspection) (ps : List Path) :
    SearchOutcome look ps (searchAlong look.probe ps) := by
  induction ps with
  | nil => exact .nothing fun _ h => absurd h List.not_mem_nil
  | cons p ps ih =>
    rw [searchAlong]
    rcases hlook : look.probe p with e | _ | _
    · exact .failed [] p ps rfl (fun _ h => absurd h List.not_mem_nil) e
        (probe_eq_error_iff.1 hlook)
    · have hcons := ih.cons (probe_eq_false_iff.1 hlook)
      cases hrest : searchAlong look.probe ps with
      | error e =>
        rw [hrest] at hcons
        exact hcons
      | ok s =>
        rw [hrest] at hcons
        exact hcons
    · exact .found [] p ps rfl (fun _ h => absurd h List.not_mem_nil) (probe_eq_true_iff.1 hlook)

/-- **What a search comes to**: the first path that is not passed over decides it. -/
theorem searchAlong_eq_iff (look : Inspection) (ps : List Path)
    (r : Except SearchError UpwardSearch) :
    searchAlong look.probe ps = r ↔ SearchOutcome look ps r := by
  constructor
  · rintro rfl
    exact searchOutcome_searchAlong look ps
  · intro h
    cases h with
    | found before p after hps hbefore hp =>
      rw [hps, searchAlong_passed fun q hq => probe_eq_false_iff.2 (hbefore q hq), searchAlong,
        probe_eq_true_iff.2 hp]
      rfl
    | failed before p after hps hbefore e hp =>
      rw [hps, searchAlong_passed fun q hq => probe_eq_false_iff.2 (hbefore q hq), searchAlong,
        probe_eq_error_iff.2 hp]
      rfl
    | nothing hps =>
      have hall := searchAlong_passed (fun q hq => probe_eq_false_iff.2 (hps q hq)) []
      rw [List.append_nil] at hall
      rw [hall]
      simp [searchAlong, Except.map]

/-! ## What was recorded is enough -/

section

variable {look look' : Inspection} {start : Path}

/-- A search that finds what it recorded as it was comes to the same. -/
lemma findUpward_congr {names : List String} {s : UpwardSearch}
    (h : findUpward look.probe start names = .ok s)
    (hagree : ∀ p ∈ s.probed, look'.probe p = look.probe p) :
    findUpward look'.probe start names = .ok s := by
  have hpassed : ∀ q ∈ s.probed, PassedOver look q → PassedOver look' q := by
    intro q hq hover
    rw [← probe_eq_false_iff, hagree q hq]
    exact probe_eq_false_iff.2 hover
  unfold findUpward at h ⊢
  rw [searchAlong_eq_iff] at h ⊢
  cases h with
  | found before p after hps hbefore hp =>
    refine .found before p after hps (fun q hq => ?_) ?_
    · exact hpassed q (List.mem_append_left _ hq) (hbefore q hq)
    · rw [← probe_eq_true_iff, hagree p (List.mem_append_right _ (List.mem_singleton_self p))]
      exact probe_eq_true_iff.2 hp
  | nothing hps => exact .nothing fun q hq => hpassed q hq (hps q hq)

/-- A search for a configuration that finds what it recorded as it was comes to the same. -/
lemma findPnp_congr {s : PnpSearch} (h : findPnp look.probe start = .ok s)
    (hagree : ∀ p ∈ s.probed, look'.probe p = look.probe p) :
    findPnp look'.probe start = .ok s := by
  unfold findPnp at h ⊢
  rcases hup : findUpward look.probe start registerNames with e | ⟨_ | register, probed⟩ <;>
    simp only [hup] at h
  · cases h
  · cases h
    rw [findUpward_congr hup hagree]
  · rcases hloader : look.probe (register.sibling loaderName) with e | there <;>
      simp only [hloader] at h
    · cases h
    · cases h
      have hthere : look'.probe (register.sibling loaderName) = .ok there := by
        rw [hagree _ (List.mem_append_right _ (List.mem_singleton_self _)), hloader]
      rw [findUpward_congr hup fun p hp => hagree p (List.mem_append_left _ hp)]
      dsimp only
      rw [hthere]

end

/-- **The nearest marker.** From every start and for every list of names, whatever is at each path
or keeps it from being looked at:

* a search may look at the names in order in the start, in its parent, and so on until there is no
  parent;
* it comes to the first of these paths that holds a file, and has looked at all up to there; or it
  fails at the first that cannot be looked at, if that comes earlier; or all are passed over, and it
  has looked at all of them;
* a search for the root of a package, and one for a configuration with its loader, come to the same
  and look at the same paths wherever the paths that they recorded are as they were. -/
theorem nearest_and_sufficient (look : Inspection) (start : Path) (names : List String)
    (marker : String) :
    (∃ folders, start.Climbs folders ∧ candidates start names =
        folders.flatMap fun folder => names.map fun name => folder.join ⟨name⟩) ∧
      (∀ r, findUpward look.probe start names = r ↔
        SearchOutcome look (candidates start names) r) ∧
      (∀ s, findPackageRoot look.probe start marker = .ok s → ∀ look' : Inspection,
        (∀ p ∈ s.probed, look'.probe p = look.probe p) →
          findPackageRoot look'.probe start marker = .ok s) ∧
      (∀ s, findPnp look.probe start = .ok s → ∀ look' : Inspection,
        (∀ p ∈ s.probed, look'.probe p = look.probe p) → findPnp look'.probe start = .ok s) :=
  ⟨⟨start.ancestors, start.climbs_ancestors, rfl⟩, fun r => searchAlong_eq_iff look _ r,
    fun _ hs _ hagree => findUpward_congr hs hagree, fun _ hs _ hagree => findPnp_congr hs hagree⟩

/-- A package in a folder of its own, with a register script and no loader, and what else there is
beside the folder. -/
def onePackageBeside (others : List (Name × Node)) : FileTree where
  root := .folder 0 (("w".toList, .folder 0
    [("package.json".toList, .file [] 0 false), (".pnp.cjs".toList, .file [] 0 false)]) :: others)
  current := []

/-- A marker and a register script in the root. -/
def furtherUp : List (Name × Node) :=
  [("package.json".toList, .file [] 0 false), (".pnp.js".toList, .file [] 0 false)]

/-- There are no links in that tree if there are none in the other things. -/
lemma onePackageBeside_linkFree (others : List (Name × Node)) (h : ∀ e ∈ others, e.2.LinkFree) :
    (onePackageBeside others).LinkFree := by
  refine Node.linkFree_folder (List.forall_mem_cons.2 ⟨Node.linkFree_folder ?_, h⟩)
  simp [Node.linkFree_file]

/-- Files that are further up make no difference. -/
theorem nearest_and_sufficient_furtherUp :
    findPackageRoot (onePackageBeside []).isFile ⟨"/w/a.css"⟩ "package.json" =
        .ok ⟨some ⟨"/w/package.json"⟩, [⟨"/w/a.css/package.json"⟩, ⟨"/w/package.json"⟩]⟩ ∧
      findPackageRoot (onePackageBeside furtherUp).isFile ⟨"/w/a.css"⟩ "package.json" =
        .ok ⟨some ⟨"/w/package.json"⟩, [⟨"/w/a.css/package.json"⟩, ⟨"/w/package.json"⟩]⟩ ∧
      findPnp (onePackageBeside furtherUp).isFile ⟨"/w/a.css"⟩ =
        .ok ⟨some ⟨⟨"/w/.pnp.cjs"⟩, none⟩, [⟨"/w/a.css/.pnp.cjs"⟩, ⟨"/w/a.css/.pnp.js"⟩,
          ⟨"/w/.pnp.cjs"⟩, ⟨"/w/.pnp.loader.mjs"⟩]⟩ := by
  have hplain := FileTree.isFile_eq_isFileDown (onePackageBeside_linkFree [] (by simp))
  have hfurther := FileTree.isFile_eq_isFileDown
    (onePackageBeside_linkFree furtherUp (by simp [furtherUp, Node.linkFree_file]))
  obtain ⟨-, -, hroot, hpnp⟩ := nearest_and_sufficient (onePackageBeside []).inspect ⟨"/w/a.css"⟩
    ["package.json"] "package.json"
  simp only [← FileTree.isFile_eq_probe] at hroot hpnp
  have hfound : findPackageRoot (onePackageBeside []).isFile ⟨"/w/a.css"⟩ "package.json" =
      .ok ⟨some ⟨"/w/package.json"⟩, [⟨"/w/a.css/package.json"⟩, ⟨"/w/package.json"⟩]⟩ := by
    rw [hplain]
    decide +kernel
  refine ⟨hfound, hroot _ hfound (onePackageBeside furtherUp).inspect ?_,
    hpnp _ ?_ (onePackageBeside furtherUp).inspect ?_⟩
  · simp only [← FileTree.isFile_eq_probe, hplain, hfurther]
    decide +kernel
  · rw [hplain]
    decide +kernel
  · simp only [← FileTree.isFile_eq_probe, hplain, hfurther]
    decide +kernel

end LintPool
