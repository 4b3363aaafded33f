import LintPool.Proofs.Cache.Entries
import LintPool.Proofs.Path.Resolved
import LintPool.Service.Basic

set_option autoImplicit false

/-!
# Worker roots and the workspace folder

A root counts only if it continues the workspace folder, component by component, as the two are
written. So a worker root lies in the workspace folder unless the way from the folder to the root
goes up through `..`. Where there are no links, this decides the matter: the root lies in the folder
just if that way goes down again what it has gone up. Such a way is always the beginning of a path
that the request gave.

## Main definitions

* `LintPool.PackageRoots.Written` — a root continues its workspace folder, as written.

## Main results

* `LintPool.PackageRoots.written_of_rootSearch` — a root that is found continues the workspace
  folder, and begins the path that it was searched from.
* `LintPool.Service.workerRoot_within_iff` — when a worker root lies in the workspace folder.
-/

namespace LintPool

namespace PackageRoots

/-- A root continues the workspace folder and, if the marker is a name, begins the path that it
belongs to. -/
def Written (marker : String) (key : CacheKey) (root : Option Path) : Prop :=
  ∀ r, root = some r → key.workspace <+: r.components ∧
    (Path.IsSingleName marker.toList → r.components <+: key.path)

/-- The way from the workspace folder to a root goes up only if the path does that the root belongs
to. -/
lemma Written.below {marker : String} {ws path root : Path}
    (h : Written marker (.of ws path) (some root)) :
    ∃ below, root.components = ws.components ++ below ∧
      (Path.IsSingleName marker.toList → Path.Straight path.components → Path.Straight below) := by
  obtain ⟨⟨below, hbelow⟩, hbegins⟩ := h root rfl
  have hbelow' : below.Sublist root.components := hbelow ▸ List.sublist_append_right _ _
  exact ⟨below, hbelow.symm, fun hmarker hstraight =>
    hstraight.sublist (hbelow'.trans (hbegins hmarker).sublist)⟩

/-- One up from the marker of a folder is the folder. -/
lemma map_components_parent?_join (folder : Path) {marker : String}
    (hmarker : Path.IsSingleName marker.toList) :
    (folder.join ⟨marker⟩).parent?.map Path.components = some folder.components := by
  rw [Path.map_components_parent?, Path.components_join_name folder hmarker, Path.parentOf, if_neg,
    List.dropLast_concat]
  rintro (hnil | hroot)
  · simp at hnil
  · have hlast := congrArg List.getLast? hroot
    simp at hlast

/-- The folder of a marker that was looked at is the one that the search was in. -/
lemma components_parent_of_join {folder root : Path} {marker : String}
    (hmarker : Path.IsSingleName marker.toList) (h : (folder.join ⟨marker⟩).parent? = some root) :
    root.components = folder.components := by
  have hparent := map_components_parent?_join folder hmarker
  rw [h] at hparent
  exact Option.some.inj hparent

/-- **A root that is found** continues the workspace folder, and begins the path that it was
searched from. -/
theorem written_of_rootSearch {marker : String} {probe : Probe} {ws path : Path}
    {root : Option Path} {probed : List Path}
    (h : rootSearch marker probe ws path = .ok (root, probed)) :
    Written marker (.of ws path) root := by
  rintro r rfl
  obtain ⟨s, hs, heq⟩ := map_eq_ok h
  obtain ⟨hroot, -⟩ := Prod.mk.inj heq
  obtain ⟨hdirectory, hwithin⟩ := Option.filter_eq_some_iff.1 hroot
  obtain ⟨p, hfound, hparent⟩ := Option.bind_eq_some_iff.1 hdirectory
  have hcontinues : ws.components <+: r.components := by simpa [Path.within] using hwithin
  refine ⟨hcontinues, fun hmarker => ?_⟩
  obtain ⟨folder, hfolder, hp⟩ := List.mem_flatMap.1 (mem_of_found hs hfound)
  obtain rfl : p = folder.join ⟨marker⟩ := by simpa using hp
  rw [components_parent_of_join hmarker hparent]
  exact Path.components_prefix_of_mem_ancestors hfolder

end PackageRoots

/-- The folder that a linter is installed for begins the path of the linter. -/
lemma installerOf_continued (linter : Path) :
    (installerOf linter).components <+: linter.components := by
  unfold installerOf
  dsimp only
  split
  · exact List.prefix_rfl
  · rename_i last owner hdrop
    have hsuffix : owner <:+ linter.components.reverse := by
      refine List.IsSuffix.trans (List.suffix_cons last owner) ?_
      rw [← hdrop]
      exact List.dropWhile_suffix _
    have hprefix : owner.reverse <+: linter.components := by
      simpa using List.reverse_prefix.2 hsuffix
    rw [Path.components_ofComponents hprefix]
    exact hprefix

namespace Service

variable {v v' : Service} {marker : String} {looks : Probe} {es : List Outlook.Event}
  {t : FileTree} {ws : Path} {file linter : Option Path} {c : WorkerContext}

/-- A context has the workspace folder of the request, and the root that was found or the folder. -/
lemma workerRoot_of_contextFor (h : v.contextFor t ws file linter = (.ok c, v')) :
    ∃ found, (v.roots.findForRequest t.isFile ws file linter).1 = .ok found ∧
      c.workerRoot = found.getD ws := by
  unfold contextFor rootFor at h
  rcases hfind : v.roots.findForRequest t.isFile ws file linter with ⟨e | found, roots⟩ <;>
    simp only [hfind, Except.map] at h
  · cases h
  · refine ⟨found, rfl, ?_⟩
    split at h
    · cases h
    · cases h
      rfl

/-- **When a worker root lies in the workspace folder.** However the tree and what is remembered
have come about, a worker root continues the workspace folder as written; in a tree without links it
lies in the folder just if what it continues the folder by goes down again what it has gone up. It
does so if it never goes up, and it never does if the request gave no path with `..`. -/
theorem workerRoot_within_iff
    (hroots : v.roots = ((Outlook.start marker looks).run es).memory.roots) (ht : t.LinkFree)
    (hws : ws.isAbsolute = true) (hlinter : ∀ l ∈ linter, l.isAbsolute = true)
    (h : v.contextFor t ws file linter = (.ok c, v')) :
    ∃ below, c.workerRoot.components = ws.components ++ below ∧
      (∀ a, t.locate ws = .ok a → a = ws.resolved) ∧
      (∀ a, t.locate c.workerRoot = .ok a → a = c.workerRoot.resolved) ∧
      (ws.resolved <+: c.workerRoot.resolved ↔
        ws.resolved.drop (ws.resolved.length - (Path.climb below).ups) <+:
          (Path.climb below).downs) ∧
      (Path.Straight below → ws.resolved <+: c.workerRoot.resolved) ∧
      (Path.IsSingleName marker.toList → (∀ p ∈ file, Path.Straight p.components) →
        (∀ l ∈ linter, Path.Straight l.components) → Path.Straight below) := by
  obtain ⟨hmarker, hall⟩ := Outlook.all_roots_run (P := PackageRoots.Written marker)
    (fun _ _ _ _ _ => PackageRoots.written_of_rootSearch) looks es
  rw [← hroots] at hmarker hall
  obtain ⟨found, hfound, hroot⟩ := workerRoot_of_contextFor h
  -- the root as written
  obtain ⟨below, hbelow, hstraight⟩ : ∃ below, c.workerRoot.components = ws.components ++ below ∧
      (Path.IsSingleName marker.toList → (∀ p ∈ file, Path.Straight p.components) →
        (∀ l ∈ linter, Path.Straight l.components) → Path.Straight below) := by
    rw [hroot]
    cases found with
    | none => exact ⟨[], by simp, fun _ _ _ => List.not_mem_nil⟩
    | some root =>
      obtain ⟨-, -, hcomes⟩ := PackageRoots.root_findForRequest hall
        (fun path root probed hs => PackageRoots.written_of_rootSearch (hmarker ▸ hs)) file linter
      rcases hcomes root hfound with ⟨p, hp, hwritten⟩ | ⟨l, hl, hwritten⟩
      · obtain ⟨below, hbelow, hway⟩ := hwritten.below
        exact ⟨below, hbelow, fun hname hfile _ => hway hname (hfile p hp)⟩
      · obtain ⟨below, hbelow, hway⟩ := hwritten.below
        have hseen : l.seenFrom ws = l := if_pos (hlinter l hl)
        rw [hseen] at hway
        exact ⟨below, hbelow, fun hname _ hentry =>
          hway hname ((hentry l hl).sublist (installerOf_continued l).sublist)⟩
  -- and where it leads
  have hresolved : c.workerRoot.resolved = below.foldl Path.Component.from ws.resolved := by
    rw [Path.resolved, Path.resolved, hbelow, List.foldl_append]
  have habs : c.workerRoot.isAbsolute = true := by
    have hhead : ws.components.head? = some .root := Path.isAbsolute_iff.1 hws
    rw [Path.isAbsolute_iff, hbelow, List.head?_append, hhead, Option.some_or]
  refine ⟨below, hbelow, fun a ha => FileTree.locate_eq_resolved ht hws ha,
    fun a ha => FileTree.locate_eq_resolved ht habs ha, ?_, ?_, hstraight⟩
  · rw [hresolved]
    exact Path.prefix_foldl_from_iff below ws.resolved
  · intro hbelow
    rw [hresolved]
    exact hbelow.prefix_foldl_from ws.resolved

/-- A tree with two packages side by side. -/
def twoPackages : FileTree where
  root := .folder 0
    [ ("w".toList, .folder 0 [("package.json".toList, .file [] 0 false)]),
      ("o".toList, .folder 0 [("package.json".toList, .file [] 0 false)]) ]
  current := []

/-- There are no links in that tree. -/
lemma twoPackages_linkFree : twoPackages.LinkFree := by
  refine Node.linkFree_folder ?_
  have hpackage : ∀ e ∈ [("package.json".toList, Node.file [] 0 false)], e.2.LinkFree := by
    simp [Node.linkFree_file]
  simp only [List.forall_mem_cons, List.not_mem_nil, false_implies, implies_true, and_true]
  exact ⟨Node.linkFree_folder hpackage, Node.linkFree_folder hpackage⟩

/-- The worker roots that a new service chooses for two files. -/
lemma workerRoot_twoPackages (file root : Path)
    (h : file = ⟨"/w/../w/a.css"⟩ ∧ root = ⟨"/w/../w"⟩ ∨
      file = ⟨"/w/../o/a.css"⟩ ∧ root = ⟨"/w/../o"⟩) :
    ∃ c v', (ofSettings .standard).contextFor twoPackages ⟨"/w"⟩ (some file) none = (.ok c, v') ∧
      c.workerRoot = root := by
  have hroot : ((ofSettings .standard).contextFor twoPackages ⟨"/w"⟩ (some file) none).1.map
      (·.workerRoot) = .ok root := by
    rw [contextFor, rootFor, FileTree.isFile_eq_isFileDown twoPackages_linkFree]
    rcases h with ⟨rfl, rfl⟩ | ⟨rfl, rfl⟩ <;> decide +kernel
  rcases hcontext : (ofSettings .standard).contextFor twoPackages ⟨"/w"⟩ (some file) none with
    ⟨e | c, v'⟩ <;> rw [hcontext] at hroot
  · cases hroot
  · exact ⟨c, v', rfl, Except.ok.inj hroot⟩

/-- A root that is reached by going up and down again lies in the workspace folder. -/
theorem workerRoot_within_iff_again : ∃ c v',
    (ofSettings .standard).contextFor twoPackages ⟨"/w"⟩ (some ⟨"/w/../w/a.css"⟩) none =
      (.ok c, v') ∧ c.workerRoot = ⟨"/w/../w"⟩ ∧
    (⟨"/w"⟩ : Path).resolved <+: c.workerRoot.resolved := by
  obtain ⟨c, v', hcontext, hroot⟩ :=
    workerRoot_twoPackages ⟨"/w/../w/a.css"⟩ ⟨"/w/../w"⟩ (.inl ⟨rfl, rfl⟩)
  have hroots : (ofSettings .standard).roots =
      ((Outlook.start "package.json" fun _ => .ok false).run []).memory.roots := rfl
  obtain ⟨below, hbelow, -, -, hiff, -⟩ :=
    workerRoot_within_iff hroots twoPackages_linkFree (by decide) (by simp) hcontext
  refine ⟨c, v', hcontext, hroot, hiff.2 ?_⟩
  have hway : below = [.name "..".toList, .name "w".toList] := by
    rw [hroot] at hbelow
    have hwritten : (⟨"/w/../w"⟩ : Path).components =
        (⟨"/w"⟩ : Path).components ++ [.name "..".toList, .name "w".toList] := by decide
    exact List.append_cancel_left (hbelow.symm.trans hwritten)
  rw [hway]
  decide

/-- Not every root lies in the workspace folder: one that is reached by going up does not. -/
theorem not_workerRoot_within : ¬ ∀ (t : FileTree) (ws : Path) (file linter : Option Path)
    (c : WorkerContext), t.LinkFree → ws.isAbsolute = true → (∀ p ∈ file, p.isAbsolute = true) →
      (∀ l ∈ linter, l.isAbsolute = true) →
        ((ofSettings .standard).contextFor t ws file linter).1 = .ok c →
          ws.resolved <+: c.workerRoot.resolved := by
  intro hall
  obtain ⟨c, v', hcontext, hroot⟩ :=
    workerRoot_twoPackages ⟨"/w/../o/a.css"⟩ ⟨"/w/../o"⟩ (.inr ⟨rfl, rfl⟩)
  have hwithin := hall twoPackages ⟨"/w"⟩ (some ⟨"/w/../o/a.css"⟩) none c twoPackages_linkFree
    (by decide) (by decide) (by simp) (by rw [hcontext])
  rw [hroot] at hwithin
  exact absurd hwithin (by decide)

end Service

end LintPool
