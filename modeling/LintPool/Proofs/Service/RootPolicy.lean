import Mathlib.Data.List.TakeWhile
import LintPool.Proofs.Search.Nearest
import LintPool.Proofs.Service.Containment

set_option autoImplicit false

/-!
# The root for a request

The root that counts for a path is the deepest folder, among the path and what is above it, that
lies within the workspace folder and holds the marker. The search takes the nearest marker whatever
folder it is in, and only then asks whether that folder lies within the workspace folder. This comes
to the same, because what is above a folder is a beginning of it: where the nearest folder does not
continue the workspace folder, none above it does.

A request asks this of the code file first, and if that gives nothing of the folder that the linter
is installed for. Lying within a folder, and at or below one, is meant of components, as written.

## Main definitions

* `LintPool.IsDeepest`, `LintPool.NoneWithin` — the root that counts for a path, and that none does.
* `LintPool.FailsAt` — the path that a search upward fails at.
* `LintPool.WalksFrom` — the paths that a request searches upward from.
* `LintPool.RootPolicy` — the root for a request.
* `LintPool.OwnedBy` — the folder that the last `node_modules` of a path is in.

## Main results

* `LintPool.ascend_eq_error_iff`, `LintPool.ascend_eq_none_iff`, `LintPool.isDeepest_of_ascend` —
  what a search upward comes to.
* `LintPool.ownedBy_installerOf` — the folder that a linter is installed for.
* `LintPool.request_keeps_policy` — what a request comes to, with nothing remembered.
-/

namespace LintPool

/-! ## One search upward -/

section

variable (t : FileTree) (marker : String) (ws path : Path)

/-- The deepest folder among a path and what is above it that lies within the workspace folder and
holds the marker. -/
structure IsDeepest (root : Path) : Prop where
  /-- It is among the path and what is above it, and holds the marker. -/
  above : ∃ folder ∈ path.ancestors, root.Same folder ∧ HoldsFile t.inspect (folder.join ⟨marker⟩)
  /-- It lies within the workspace folder. -/
  within : root.within ws = true
  /-- It is as deep as any. -/
  deepest : ∀ folder ∈ path.ancestors, folder.within ws = true →
    HoldsFile t.inspect (folder.join ⟨marker⟩) → folder.components <+: root.components

/-- Neither a path nor anything above it lies within the workspace folder and holds the marker. -/
def NoneWithin : Prop :=
  ∀ folder ∈ path.ancestors, folder.within ws = true →
    ¬ HoldsFile t.inspect (folder.join ⟨marker⟩)

/-- On the way up from a path, `p` cannot be looked at, and before it there is no marker, nor
another path that cannot be looked at. -/
def FailsAt (p : Path) (e : AccessError) : Prop :=
  ∃ before folder after, path.ancestors = before ++ folder :: after ∧
    (∀ nearer ∈ before, PassedOver t.inspect (nearer.join ⟨marker⟩)) ∧
    p = folder.join ⟨marker⟩ ∧ Faults t.inspect p e

/-- What a search upward from a path comes to. -/
def ascend : Except SearchError (Option Path) :=
  (rootSearch marker t.isFile ws path).map (·.1)

end

section

variable {t : FileTree} {marker : String} {ws path : Path}

/-- The first path on the way up that decides a search is the marker of a folder. -/
lemma ancestors_eq_of_candidates {before after : List Path} {p : Path}
    (h : candidates path [marker] = before ++ p :: after) :
    ∃ nearer folder above, path.ancestors = nearer ++ folder :: above ∧
      p = folder.join ⟨marker⟩ ∧ before = nearer.map (·.join ⟨marker⟩) := by
  rw [candidates_singleton] at h
  obtain ⟨nearer, rest, hancestors, hnearer, hrest⟩ := List.map_eq_append_iff.1 h
  obtain ⟨folder, above, rfl, hfolder, -⟩ := List.map_eq_cons_iff.1 hrest
  exact ⟨nearer, folder, above, hancestors, hfolder.symm, hnearer.symm⟩

/-- **A search fails** where the first path on the way up that is not passed over cannot be looked
at. -/
theorem ascend_eq_error_iff {p : Path} {e : AccessError} :
    ascend t marker ws path = .error ⟨p, e⟩ ↔ FailsAt t marker path p e := by
  have hsearch : ascend t marker ws path = .error ⟨p, e⟩ ↔
      SearchOutcome t.inspect (candidates path [marker]) (.error ⟨p, e⟩) := by
    rw [← searchAlong_eq_iff, ← FileTree.isFile_eq_probe]
    unfold ascend rootSearch findPackageRoot findUpward
    cases searchAlong t.isFile (candidates path [marker]) <;> simp [Except.map]
  rw [hsearch]
  constructor
  · intro h
    cases h with
    | failed before _ after hps hbefore _ hp =>
      obtain ⟨nearer, folder, above, hancestors, hfolder, rfl⟩ := ancestors_eq_of_candidates hps
      exact ⟨nearer, folder, above, hancestors, List.forall_mem_map.1 hbefore, hfolder, hp⟩
  · rintro ⟨nearer, folder, above, hancestors, hnearer, rfl, hfaults⟩
    refine .failed (nearer.map (·.join ⟨marker⟩)) _ (above.map (·.join ⟨marker⟩)) ?_
      (List.forall_mem_map.2 hnearer) e hfaults
    rw [candidates_singleton, hancestors, List.map_append, List.map_cons]

/-- **A search comes to an end** at the nearest marker, whose folder is the root if it lies within
the workspace folder, or when it has passed over everything. -/
lemma nearest_of_ascend {root : Option Path} (hmarker : Path.IsSingleName marker.toList)
    (h : ascend t marker ws path = .ok root) :
    (root = none ∧ ∀ folder ∈ path.ancestors, PassedOver t.inspect (folder.join ⟨marker⟩)) ∨
      ∃ nearer folder above q, path.ancestors = nearer ++ folder :: above ∧
        (∀ f ∈ nearer, PassedOver t.inspect (f.join ⟨marker⟩)) ∧
        HoldsFile t.inspect (folder.join ⟨marker⟩) ∧ q.Same folder ∧
        root = if q.within ws then some q else none := by
  obtain ⟨⟨_, probed⟩, hsearch, rfl⟩ := map_eq_ok h
  obtain ⟨s, hs, heq⟩ := map_eq_ok hsearch
  obtain ⟨rfl, -⟩ := Prod.mk.inj heq
  rw [findPackageRoot, findUpward, FileTree.isFile_eq_probe, searchAlong_eq_iff] at hs
  cases hs with
  | found before p after hps hbefore hp =>
    obtain ⟨nearer, folder, above, hancestors, rfl, rfl⟩ := ancestors_eq_of_candidates hps
    obtain ⟨q, hq, hsame⟩ :=
      Option.map_eq_some_iff.1 (PackageRoots.map_components_parent?_join folder hmarker)
    refine .inr ⟨nearer, folder, above, q, hancestors, List.forall_mem_map.1 hbefore, hp, hsame, ?_⟩
    rw [PackageRoots.rootOf, UpwardSearch.directory, Option.bind_some, hq, Option.filter_some]
  | nothing hps =>
    rw [candidates_singleton] at hps
    exact .inl ⟨rfl, List.forall_mem_map.1 hps⟩

/-- **A root that a search comes to** is the deepest. -/
theorem isDeepest_of_ascend {root : Path} (hmarker : Path.IsSingleName marker.toList)
    (h : ascend t marker ws path = .ok (some root)) : IsDeepest t marker ws path root := by
  obtain ⟨hnone, -⟩ | ⟨nearer, folder, above, q, hancestors, hnearer, hholds, hsame, hroot⟩ :=
    nearest_of_ascend hmarker h
  · cases hnone
  · split at hroot
    · rename_i hwithin
      cases hroot
      refine ⟨⟨folder, ?_, hsame, hholds⟩, hwithin, fun other hother _ hmarked => ?_⟩
      · rw [hancestors]
        exact List.mem_append_right _ List.mem_cons_self
      · rw [hancestors] at hother
        rcases List.mem_append.1 hother with hother | hother
        · exact absurd hmarked (hnearer other hother).not_holdsFile
        · rw [show root.components = folder.components from hsame]
          exact Path.prefix_of_ancestors_eq hancestors hother
    · cases hroot

/-- The deepest folder is not below the path. -/
lemma IsDeepest.not_below {root : Path} (h : IsDeepest t marker ws path root)
    (c : Path.Component) : ¬ path.components ++ [c] <+: root.components := by
  intro hbelow
  obtain ⟨folder, hfolder, hsame, -⟩ := h.above
  have hbegins := Path.components_prefix_of_mem_ancestors hfolder
  rw [← show root.components = folder.components from hsame] at hbegins
  have hlength := (hbelow.trans hbegins).length_le
  rw [List.length_append, List.length_singleton] at hlength
  omega

/-- Where a search comes to no root, everything within the workspace folder has been passed over.

**Proof sketch.** If the nearest marker is not within the workspace folder, then what is within it
comes before that marker: what comes after is a beginning of the folder of the marker, so if the
workspace folder were a beginning of it, that folder would be within the workspace folder too. -/
lemma passedOver_of_ascend (hmarker : Path.IsSingleName marker.toList)
    (h : ascend t marker ws path = .ok none) {folder : Path} (hfolder : folder ∈ path.ancestors)
    (hwithin : folder.within ws = true) : PassedOver t.inspect (folder.join ⟨marker⟩) := by
  obtain ⟨-, hall⟩ | ⟨nearer, nearest, above, q, hancestors, hnearer, -, hsame, hroot⟩ :=
    nearest_of_ascend hmarker h
  · exact hall folder hfolder
  · rw [hancestors] at hfolder
    rcases List.mem_append.1 hfolder with hfolder | hfolder
    · exact hnearer folder hfolder
    · have hprefix := Path.prefix_of_ancestors_eq hancestors hfolder
      have hq : q.within ws = true := by
        rw [hsame.within rfl]
        unfold Path.within at hwithin ⊢
        rw [List.isPrefixOf_iff_prefix] at hwithin ⊢
        exact hwithin.trans hprefix
      rw [if_pos hq] at hroot
      cases hroot

/-- **A search comes to no root** where it does not fail and there is none. -/
theorem ascend_eq_none_iff (hmarker : Path.IsSingleName marker.toList) :
    ascend t marker ws path = .ok none ↔
      (∀ p e, ¬ FailsAt t marker path p e) ∧ NoneWithin t marker ws path := by
  constructor
  · intro h
    refine ⟨fun p e hfails => ?_, fun folder hfolder hwithin => ?_⟩
    · have herror : ascend t marker ws path = .error ⟨p, e⟩ := ascend_eq_error_iff.2 hfails
      rw [h] at herror
      cases herror
    · exact (passedOver_of_ascend hmarker h hfolder hwithin).not_holdsFile
  · rintro ⟨hsound, hnone⟩
    rcases hascend : ascend t marker ws path with ⟨p, e⟩ | _ | root
    · exact absurd (ascend_eq_error_iff.1 hascend) (hsound p e)
    · rfl
    · obtain ⟨⟨folder, hfolder, hsame, hholds⟩, hwithin, -⟩ := isDeepest_of_ascend hmarker hascend
      rw [hsame.within rfl] at hwithin
      exact absurd hholds (hnone folder hfolder hwithin)

/-- Where a search comes to no root, there is none for another spelling of the path either. -/
lemma noneWithin_of_same {path' : Path} (hmarker : Path.IsSingleName marker.toList)
    (h : ascend t marker ws path = .ok none) (hsame : path.Same path') :
    NoneWithin t marker ws path' := by
  intro folder' hfolder' hwithin hholds
  obtain ⟨folder, hfolder, hspelled⟩ := hsame.exists_mem_ancestors hfolder'
  rw [← hspelled.within rfl] at hwithin
  have hfalse := probe_eq_false_iff.2 (passedOver_of_ascend hmarker h hfolder hwithin)
  have htrue := probe_eq_true_iff.2 hholds
  have hstays : staysHere marker.toList = false := by
    simpa [Path.isName, staysHere] using hmarker.1
  exact absurd (FileTree.isFile_same (hspelled.join rfl) (Path.endsIn_join folder hmarker.2)
    (Path.endsIn_join folder' hmarker.2) hstays hstays hfalse htrue) (by simp)

end

/-! ## The folder that a linter is installed for -/

/-- The folder that the last `node_modules` of a path is in, or the path itself if it has none. -/
inductive OwnedBy (linter : Path) : Path → Prop where
  /-- There is no `node_modules`. -/
  | itself (h : .name "node_modules".toList ∉ linter.components) : OwnedBy linter linter
  /-- There is a last one. -/
  | cut {owner : Path} (below : List Path.Component)
    (h : linter.components = owner.components ++ .name "node_modules".toList :: below)
    (hlast : .name "node_modules".toList ∉ below) : OwnedBy linter owner

/-- Reading backwards to a component that is not there reads everything. -/
lemma notMem_of_dropWhile_reverse {c : Path.Component} {cs : List Path.Component}
    (h : cs.reverse.dropWhile (· ≠ c) = []) : c ∉ cs := by
  intro hmem
  have hall := List.dropWhile_eq_nil_iff.1 h c (List.mem_reverse.2 hmem)
  simp at hall

/-- Reading backwards to a component stops at the last one. -/
lemma exists_eq_of_dropWhile_reverse {c last : Path.Component} {cs owner : List Path.Component}
    (h : cs.reverse.dropWhile (· ≠ c) = last :: owner) :
    ∃ below, cs = owner.reverse ++ c :: below ∧ c ∉ below := by
  have hlast : last = c := by
    have hnot := List.head?_dropWhile_not (· ≠ c) cs.reverse
    rw [h] at hnot
    simpa using hnot
  refine ⟨(cs.reverse.takeWhile (· ≠ c)).reverse, ?_, fun hmem => ?_⟩
  · calc
      cs = (cs.reverse.takeWhile (· ≠ c) ++ cs.reverse.dropWhile (· ≠ c)).reverse := by
        rw [List.takeWhile_append_dropWhile, List.reverse_reverse]
      _ = owner.reverse ++ c :: (cs.reverse.takeWhile (· ≠ c)).reverse := by
        rw [h, hlast, List.reverse_append, List.reverse_cons, List.append_assoc,
          List.singleton_append]
  · have hother := List.mem_takeWhile_imp (List.mem_reverse.1 hmem)
    simp at hother

/-- **The folder that a linter is installed for.** -/
theorem ownedBy_installerOf (linter : Path) : OwnedBy linter (installerOf linter) := by
  unfold installerOf
  dsimp only
  split
  · rename_i hdrop
    exact .itself (notMem_of_dropWhile_reverse hdrop)
  · rename_i last owner hdrop
    obtain ⟨below, hcut, hlast⟩ := exists_eq_of_dropWhile_reverse hdrop
    have howner : (Path.ofComponents owner.reverse).components = owner.reverse :=
      Path.components_ofComponents ⟨_, hcut.symm⟩
    exact .cut below (howner.symm ▸ hcut) hlast

/-! ## Requests -/

namespace PackageRoots

variable {r : PackageRoots} {t : FileTree} {ws path : Path}

/-- What is not remembered is searched for, and then remembered. -/
lemma find_of_unknown (h : r.cache.find? (.of ws path) = none) :
    ∃ r', r.find t.isFile ws path = (ascend t r.marker ws path, r') ∧ r'.walks = r.walks + 1 ∧
      r'.marker = r.marker ∧ ∀ root, ascend t r.marker ws path = .ok root →
        (∃ sources, r'.Knows ws path root sources) ∧ ∀ path', ¬ path'.Same path →
          r'.cache.find? (.of ws path') = r.cache.find? (.of ws path') := by
  have hnew : (r.known? ws path).isSome = false := by
    unfold known? FileCache.get?
    rw [h]
    rfl
  unfold ascend
  rw [find_eq, hnew]
  obtain ⟨e, hsearch, heq⟩ | ⟨v, probed, hsearch, heq⟩ :=
    FileCache.recollect_of_unknown h (rootSearch r.marker) t.isFile
  · rw [heq, hsearch]
    exact ⟨_, rfl, rfl, rfl, fun root hroot => by cases hroot⟩
  · rw [heq, hsearch]
    refine ⟨_, rfl, rfl, rfl, fun root hroot => ?_⟩
    cases hroot
    refine ⟨⟨probed.map Path.components, ?_⟩, fun path' hother => ?_⟩
    · unfold Knows
      rw [FileCache.find?_insert, if_pos rfl]
    · have hkey : CacheKey.of ws path' ≠ .of ws path := fun heq =>
        hother (congrArg CacheKey.path heq)
      rw [FileCache.find?_insert, if_neg hkey]

end PackageRoots

section

variable (t : FileTree) (marker : String) (ws : Path) (file linter : Option Path)

/-- The paths that a request searches upward from: the code file, and the folder that the linter is
installed for, if the code file gives no root and is not that folder. -/
inductive WalksFrom : Path → Prop where
  /-- The code file. -/
  | file {f : Path} (h : file = some f) : WalksFrom f
  /-- The folder that the linter is installed for. -/
  | owner {l : Path} (h : linter = some l)
    (hfile : ∀ f ∈ file, ((∀ p e, ¬ FailsAt t marker f p e) ∧ NoneWithin t marker ws f) ∧
      ¬ (installerOf (l.seenFrom ws)).Same f) :
    WalksFrom (installerOf (l.seenFrom ws))

/-- The root for a request. -/
inductive RootPolicy : Option Path → Prop where
  /-- The code file has a root. -/
  | ofFile {f root : Path} (h : file = some f) (hroot : IsDeepest t marker ws f root) :
    RootPolicy (some root)
  /-- Otherwise the folder that the linter is installed for may have one, which is not in the
  `node_modules` folder. -/
  | ofOwner {l root : Path} (hfile : ∀ f ∈ file, NoneWithin t marker ws f) (h : linter = some l)
    (hroot : IsDeepest t marker ws (installerOf (l.seenFrom ws)) root)
    (hbeside : ¬ (installerOf (l.seenFrom ws)).components ++ [.name "node_modules".toList] <+:
      root.components) :
    RootPolicy (some root)
  /-- Otherwise there is none. -/
  | nothing (hfile : ∀ f ∈ file, NoneWithin t marker ws f)
    (hlinter : ∀ l ∈ linter, NoneWithin t marker ws (installerOf (l.seenFrom ws))) :
    RootPolicy none

/-- How a request goes with nothing remembered: what it comes to, and the paths that it searches
upward from. -/
inductive RequestCourse : Except SearchError (Option Path) → List Path → Prop where
  /-- The search from the code file decides it. -/
  | decided {f : Path} (hfile : file = some f) (hends : ascend t marker ws f ≠ .ok none) :
    RequestCourse (ascend t marker ws f) [f]
  /-- There is no path left to search from. -/
  | spent (hfile : ∀ f ∈ file, ascend t marker ws f = .ok none)
    (hlinter : ∀ l ∈ linter, ∃ f ∈ file, (installerOf (l.seenFrom ws)).Same f) :
    RequestCourse (.ok none) file.toList
  /-- The search from the folder that the linter is installed for decides it. -/
  | further {l : Path} (hlinter : linter = some l)
    (hfile : ∀ f ∈ file, ascend t marker ws f = .ok none ∧
      ¬ (installerOf (l.seenFrom ws)).Same f) :
    RequestCourse (ascend t marker ws (installerOf (l.seenFrom ws)))
      (file.toList ++ [installerOf (l.seenFrom ws)])

/-- **How a request goes** with nothing remembered. -/
lemma exists_requestCourse : ∃ starts, RequestCourse t marker ws file linter
      ((PackageRoots.empty marker).findForRequest t.isFile ws file linter).1 starts ∧
    starts.length =
      ((PackageRoots.empty marker).findForRequest t.isFile ws file linter).2.walks := by
  have hunknown : ∀ path, (PackageRoots.empty marker).cache.find? (.of ws path) = none :=
    fun _ => rfl
  unfold PackageRoots.findForRequest PackageRoots.findForLinter
  cases file with
  | none =>
    cases linter with
    | none => exact ⟨[], .spent (by simp) (by simp), rfl⟩
    | some l =>
      obtain ⟨r, hfind, hwalks, -⟩ :=
        PackageRoots.find_of_unknown (t := t) (hunknown (installerOf (l.seenFrom ws)))
      dsimp only
      rw [hfind]
      exact ⟨_, .further rfl (by simp), hwalks.symm⟩
  | some f =>
    obtain ⟨r, hfind, hwalks, hmarker, hmemory⟩ :=
      PackageRoots.find_of_unknown (t := t) (hunknown f)
    dsimp only [PackageRoots.empty] at hfind hwalks hmarker hmemory ⊢
    rw [hfind]
    have hdecided (hends : ascend t marker ws f ≠ .ok none) :
        RequestCourse t marker ws (some f) linter (ascend t marker ws f) [f] := .decided rfl hends
    rcases hascend : ascend t marker ws f with e | _ | root <;> rw [hascend] at hdecided
    · exact ⟨[f], hdecided (by simp), hwalks.symm⟩
    · have hfile : ∀ f' ∈ some f, ascend t marker ws f' = .ok none := by simpa using hascend
      obtain ⟨⟨sources, hknown⟩, hothers⟩ := hmemory none hascend
      cases linter with
      | none => exact ⟨[f], .spent hfile (by simp), hwalks.symm⟩
      | some l =>
        by_cases hsame : (installerOf (l.seenFrom ws)).Same f
        · have hagain := hknown.same rfl hsame.symm
          dsimp only
          rw [hagain.find_eq]
          exact ⟨[f], .spent hfile (by simpa using hsame), hwalks.symm⟩
        · obtain ⟨r', hfind', hwalks', -⟩ :=
            PackageRoots.find_of_unknown (t := t) (hothers _ hsame)
          dsimp only
          rw [hfind', hmarker]
          refine ⟨[f] ++ [installerOf (l.seenFrom ws)], .further rfl ?_, ?_⟩
          · simpa using ⟨hascend, hsame⟩
          · rw [hwalks', hwalks]
            rfl
    · exact ⟨[f], hdecided (by simp), hwalks.symm⟩

end

section

variable {t : FileTree} {marker : String} {ws : Path} {file linter : Option Path}
  {answer : Except SearchError (Option Path)} {starts : List Path}

/-- A request searches upward from the code file, and from the folder that the linter is installed
for if the search from the code file came to nothing and will not be remembered as its own. -/
lemma walksFrom_iff (hmarker : Path.IsSingleName marker.toList) {path : Path} :
    WalksFrom t marker ws file linter path ↔ path ∈ file ∨ ∃ l ∈ linter,
      (∀ f ∈ file, ascend t marker ws f = .ok none ∧ ¬ (installerOf (l.seenFrom ws)).Same f) ∧
        path = installerOf (l.seenFrom ws) := by
  simp only [ascend_eq_none_iff hmarker]
  constructor
  · rintro (hfile | ⟨hlinter, hfile⟩)
    · exact .inl hfile
    · exact .inr ⟨_, hlinter, hfile, rfl⟩
  · rintro (hfile | ⟨l, hlinter, hfile, rfl⟩)
    · exact .file hfile
    · exact .owner hlinter hfile

namespace RequestCourse

/-- **The paths that a request searches upward from.** -/
lemma mem_iff (hmarker : Path.IsSingleName marker.toList)
    (h : RequestCourse t marker ws file linter answer starts) (path : Path) :
    path ∈ starts ↔ WalksFrom t marker ws file linter path := by
  rw [walksFrom_iff hmarker]
  cases h with
  | decided hfile hends =>
    subst hfile
    simp only [List.mem_singleton, Option.mem_some_iff]
    refine ⟨fun heq => .inl heq.symm, ?_⟩
    rintro (heq | ⟨l, -, hfile, -⟩)
    · exact heq.symm
    · exact absurd (hfile _ rfl).1 hends
  | spent hfile hlinter =>
    rw [Option.mem_toList]
    refine ⟨.inl, ?_⟩
    rintro (hpath | ⟨l, hl, hother, -⟩)
    · exact hpath
    · obtain ⟨f, hf, hsame⟩ := hlinter l hl
      exact absurd hsame (hother f hf).2
  | further hlinter hfile =>
    subst hlinter
    rw [List.mem_append, Option.mem_toList, List.mem_singleton]
    refine or_congr Iff.rfl ⟨fun heq => ⟨_, rfl, hfile, heq⟩, ?_⟩
    rintro ⟨l, hl, -, heq⟩
    cases hl
    exact heq

/-- No path is searched upward from twice. -/
lemma nodup (h : RequestCourse t marker ws file linter answer starts) : starts.Nodup := by
  cases h with
  | decided hfile hends => exact List.nodup_singleton _
  | spent hfile hlinter => cases file <;> simp
  | further hlinter hfile =>
    cases file with
    | none => exact List.nodup_singleton _
    | some f =>
      have hne : f ≠ _ := fun heq => (hfile f rfl).2 (heq ▸ rfl)
      simpa using hne

/-- **A request fails** where a search does. -/
lemma eq_error_iff (h : RequestCourse t marker ws file linter answer starts) (e : SearchError) :
    answer = .error e ↔ ∃ path ∈ starts, ascend t marker ws path = .error e := by
  have hnone : (∀ f ∈ file, ascend t marker ws f = .ok none) → ∀ path ∈ file.toList,
      ascend t marker ws path ≠ .error e := by
    intro hfile path hpath
    rw [hfile path (Option.mem_toList.1 hpath)]
    simp
  cases h with
  | decided hfile hends => simp
  | spent hfile hlinter =>
    refine iff_of_false (by simp) ?_
    rintro ⟨path, hpath, herror⟩
    exact hnone hfile path hpath herror
  | further hlinter hfile =>
    constructor
    · intro herror
      exact ⟨_, List.mem_append_right _ (List.mem_singleton_self _), herror⟩
    · rintro ⟨path, hpath, herror⟩
      rcases List.mem_append.1 hpath with hpath | hpath
      · exact absurd herror (hnone (fun f hf => (hfile f hf).1) path hpath)
      · rwa [List.mem_singleton.1 hpath] at herror

/-- **A request comes to** the root that the policy gives. -/
lemma rootPolicy (hmarker : Path.IsSingleName marker.toList)
    (h : RequestCourse t marker ws file linter answer starts) {root : Option Path}
    (hroot : answer = .ok root) : RootPolicy t marker ws file linter root := by
  cases h with
  | decided hfile hends =>
    cases root with
    | none => exact absurd hroot hends
    | some root => exact .ofFile hfile (isDeepest_of_ascend hmarker hroot)
  | spent hfile hlinter =>
    cases hroot
    refine .nothing (fun f hf => ((ascend_eq_none_iff hmarker).1 (hfile f hf)).2) fun l hl => ?_
    obtain ⟨f, hf, hsame⟩ := hlinter l hl
    exact noneWithin_of_same hmarker (hfile f hf) hsame.symm
  | @further l hlinter hfile =>
    have hgone : ∀ f ∈ file, NoneWithin t marker ws f := fun f hf =>
      ((ascend_eq_none_iff hmarker).1 (hfile f hf).1).2
    cases root with
    | none =>
      refine .nothing hgone fun l' hl' => ?_
      rw [hlinter] at hl'
      cases hl'
      exact ((ascend_eq_none_iff hmarker).1 hroot).2
    | some root =>
      have hdeepest := isDeepest_of_ascend hmarker hroot
      exact .ofOwner hgone hlinter hdeepest (hdeepest.not_below _)

end RequestCourse

/-- A request that the code file has given a root depends on nothing but what the search from the
code file has looked at. -/
lemma PackageRoots.findForRequest_congr {f : Path} {s : UpwardSearch}
    (hs : findPackageRoot t.isFile f marker = .ok s) (hroot : (rootOf ws s).isSome = true)
    {look : Inspection} (hagree : ∀ p ∈ s.probed, look.probe p = t.isFile p)
    (linter linter' : Option Path) :
    (empty marker).findForRequest look.probe ws (some f) linter' =
      (empty marker).findForRequest t.isFile ws (some f) linter := by
  have hs' : findPackageRoot look.probe f marker = .ok s := findUpward_congr hs hagree
  obtain ⟨root, hroot⟩ := Option.isSome_iff_exists.1 hroot
  have hfind (probe : Probe) (h : findPackageRoot probe f marker = .ok s) :
      (empty marker).find probe ws f =
        (.ok (some root), { empty marker with walks := 1 }.remember ws f s) := by
    have hunknown : (empty marker).known? ws f = none := rfl
    unfold find
    rw [hunknown]
    dsimp only [empty]
    rw [h, ← hroot]
  unfold findForRequest
  dsimp only
  rw [hfind _ hs, hfind _ hs']

end

/-- **The root for a request**, with nothing remembered, in every tree, for every workspace folder,
with or without a code file and a linter, and for every marker that is one name:

* it fails with an error just if a search that it makes fails with it: the error is of the first
  path on the way up that is not passed over, which cannot be looked at;
* otherwise it comes to the deepest folder that lies within the workspace folder and holds the
  marker, among the code file and what is above it, or else among the folder that the linter is
  installed for and what is above that, where it is never at or below the `node_modules` folder; or
  else to none;
* the folder that a linter is installed for is the one that the last `node_modules` of its path,
  read in the workspace folder, is in;
* it searches upward from each of the paths that it has to once, and from no others;
* if the code file has a root, the request comes to the same and remembers the same whatever there
  is at the paths that the search from the code file has not looked at, and whatever the linter is.
-/
theorem request_keeps_policy (t : FileTree) (ws : Path) (file linter : Option Path)
    {marker : String} (hmarker : Path.IsSingleName marker.toList) :
    (∀ p e, ((PackageRoots.empty marker).findForRequest t.isFile ws file linter).1 =
        .error ⟨p, e⟩ ↔
      ∃ path, WalksFrom t marker ws file linter path ∧ FailsAt t marker path p e) ∧
    (∀ root, ((PackageRoots.empty marker).findForRequest t.isFile ws file linter).1 = .ok root →
      RootPolicy t marker ws file linter root) ∧
    (∀ l ∈ linter, OwnedBy (l.seenFrom ws) (installerOf (l.seenFrom ws))) ∧
    (∃ starts : List Path, starts.Nodup ∧
      (∀ path, path ∈ starts ↔ WalksFrom t marker ws file linter path) ∧
      starts.length =
        ((PackageRoots.empty marker).findForRequest t.isFile ws file linter).2.walks) ∧
    (∀ f s, file = some f → findPackageRoot t.isFile f marker = .ok s →
      (PackageRoots.rootOf ws s).isSome = true →
        ∀ (look : Inspection) (linter' : Option Path),
          (∀ p ∈ s.probed, look.probe p = t.isFile p) →
            (PackageRoots.empty marker).findForRequest look.probe ws file linter' =
              (PackageRoots.empty marker).findForRequest t.isFile ws file linter) := by
  obtain ⟨starts, hcourse, hwalks⟩ := exists_requestCourse t marker ws file linter
  refine ⟨fun p e => ?_, fun root hroot => hcourse.rootPolicy hmarker hroot,
    fun l _ => ownedBy_installerOf (l.seenFrom ws),
    ⟨starts, hcourse.nodup, hcourse.mem_iff hmarker, hwalks⟩, ?_⟩
  · simp only [hcourse.eq_error_iff, hcourse.mem_iff hmarker, ascend_eq_error_iff]
  · rintro f s rfl hs hroot look linter' hagree
    exact PackageRoots.findForRequest_congr hs hroot hagree linter linter'

/-- A folder with a marker and other things in it. -/
def packageFolder (others : List (Name × Node)) : Node :=
  .folder 0 (("package.json".toList, .file [] 0 false) :: others)

/-- There are no links in that folder if there are none in the other things. -/
lemma packageFolder_linkFree {others : List (Name × Node)} (h : ∀ e ∈ others, e.2.LinkFree) :
    (packageFolder others).LinkFree :=
  Node.linkFree_folder (List.forall_mem_cons.2 ⟨Node.linkFree_file [] 0 false, h⟩)

/-- A package outside the workspace folder, and one inside it that has installed a linter. -/
def linterInTools : FileTree where
  root := packageFolder [("w".toList, .folder 0 [("tools".toList, packageFolder
    [("node_modules".toList, .folder 0 [("stylelint".toList, packageFolder [])])])])]
  current := []

/-- There are no links in that tree. -/
lemma linterInTools_linkFree : linterInTools.LinkFree := by
  have hmodules : (Node.folder 0 [("stylelint".toList, packageFolder [])]).LinkFree := by
    apply Node.linkFree_folder
    exact List.forall_mem_singleton.2 (packageFolder_linkFree (by simp))
  apply packageFolder_linkFree
  refine List.forall_mem_singleton.2 (Node.linkFree_folder (List.forall_mem_singleton.2 ?_))
  exact packageFolder_linkFree (List.forall_mem_singleton.2 hmodules)

/-- The marker outside the workspace folder does not count, nor does that of the linter itself. -/
theorem request_keeps_policy_fallback :
    ((PackageRoots.empty "package.json").findForRequest linterInTools.isFile ⟨"/w"⟩
        (some ⟨"/w/a.css"⟩) (some ⟨"tools/node_modules/stylelint"⟩)).1 =
      .ok (some ⟨"/w/tools"⟩) ∧
    RootPolicy linterInTools "package.json" ⟨"/w"⟩ (some ⟨"/w/a.css"⟩)
      (some ⟨"tools/node_modules/stylelint"⟩) (some ⟨"/w/tools"⟩) := by
  have hmarker : Path.IsSingleName "package.json".toList := ⟨by decide, by decide⟩
  have hanswer : ((PackageRoots.empty "package.json").findForRequest linterInTools.isFile ⟨"/w"⟩
      (some ⟨"/w/a.css"⟩) (some ⟨"tools/node_modules/stylelint"⟩)).1 = .ok (some ⟨"/w/tools"⟩) := by
    rw [FileTree.isFile_eq_isFileDown linterInTools_linkFree]
    decide +kernel
  obtain ⟨-, hpolicy, -⟩ := request_keeps_policy linterInTools ⟨"/w"⟩ (some ⟨"/w/a.css"⟩)
    (some ⟨"tools/node_modules/stylelint"⟩) hmarker
  exact ⟨hanswer, hpolicy _ hanswer⟩

end LintPool
