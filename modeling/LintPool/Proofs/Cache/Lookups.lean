import LintPool.Proofs.Cache.Recall

set_option autoImplicit false

/-!
# Lookups

A lookup asks for the root of a path, for the root of a request, or for the configuration of a path.
Without anything remembered it is a search. With what is remembered it comes to the like, as long as
the tree says of the recorded paths what it said; then what it needed is remembered, and while it
is, the same lookup is answered from it alone.

## Main definitions

* `LintPool.Lookup`, `LintPool.Found` — what is asked, and what is found.
* `LintPool.Lookup.search` — a lookup without anything remembered.
* `LintPool.Memory`, `LintPool.Memory.ask` — what is remembered, and a lookup in it.
* `LintPool.Memory.Remembers` — what a lookup comes to is remembered.

## Main results

* `LintPool.Memory.Backed.ask` — a lookup comes to what a search comes to.
* `LintPool.Memory.Remembers.ask_eq` — what is remembered is answered without a look at the tree.
* `LintPool.Memory.Remembers.mono` — what is remembered stays with its entries.
-/

namespace LintPool

/-! ## Lookups without a memory -/

/-- What is asked: the root of a path, the root of a request, or the configuration of a path. -/
inductive Lookup where
  /-- The root of a path. -/
  | root (workspace path : Path)
  /-- The root for a request with a code file and a linter. -/
  | request (workspace : Path) (codeFile linter : Option Path)
  /-- The configuration that governs a path. -/
  | loader (workspace path : Path)
  deriving Repr, DecidableEq

/-- What is found: a root or a configuration, or that there is none. -/
inductive Found where
  /-- A root. -/
  | root (r : Option Path)
  /-- A configuration. -/
  | loader (c : Option PnpConfiguration)
  deriving Repr

/-- Two findings are the same, paths compared by their components. -/
def Found.Same : Found → Found → Prop
  | .root r, .root r' => SamePath? r r'
  | .loader c, .loader c' => samePnp c c' = true
  | _, _ => False

/-- The search for the root of the package that installed the linter. -/
def linterSearch (marker : String) (looks : Probe) (ws : Path) :
    Option Path → Except SearchError (Option Path × List Path)
  | some linter => rootSearch marker looks ws (installerOf (linter.seenFrom ws))
  | none => .ok (none, [])

/-- The search for the root of a request. -/
def requestSearch (marker : String) (looks : Probe) (ws : Path) (codeFile linter : Option Path) :
    Except SearchError (Option Path × List Path) :=
  match codeFile with
  | none => linterSearch marker looks ws linter
  | some file =>
    match rootSearch marker looks ws file with
    | .ok (none, probed) =>
      (linterSearch marker looks ws linter).map fun s => (s.1, probed ++ s.2)
    | found => found

namespace Lookup

/-- What a lookup comes to without anything remembered, and the paths that it looks at. -/
def search (marker : String) (looks : Probe) : Lookup → Except SearchError (Found × List Path)
  | root ws path => (rootSearch marker looks ws path).map fun s => (.root s.1, s.2)
  | request ws file linter =>
    (requestSearch marker looks ws file linter).map fun s => (.root s.1, s.2)
  | loader ws path => (loaderSearch looks ws path).map fun s => (.loader s.1, s.2)

/-- The paths that a lookup may look at. -/
def reach (marker : String) : Lookup → List Path
  | root _ path => candidates path [marker]
  | request ws file linter =>
    (file.elim [] fun p => candidates p [marker]) ++
      linter.elim [] fun p => candidates (installerOf (p.seenFrom ws)) [marker]
  | loader _ path => loaderCandidates path

/-- The workspace folder of a lookup. -/
def workspace : Lookup → Path
  | root ws _ => ws
  | request ws _ _ => ws
  | loader ws _ => ws

/-- Two lookups ask the same, paths compared by their components. -/
def Same : Lookup → Lookup → Prop
  | root ws path, root ws' path' => ws.Same ws' ∧ path.Same path'
  | request ws file linter, request ws' file' linter' =>
    ws.Same ws' ∧ SamePath? file file' ∧ SamePath? linter linter'
  | loader ws path, loader ws' path' => ws.Same ws' ∧ path.Same path'
  | _, _ => False

end Lookup

/-! ## Lookups in a memory -/

/-- The two things that are remembered. -/
inductive Memory.Kind where
  /-- The roots. -/
  | roots
  /-- The configurations. -/
  | loaders
  deriving Repr, DecidableEq

/-- Where the answers to a lookup are remembered. -/
def Lookup.kind : Lookup → Memory.Kind
  | root .. => .roots
  | request .. => .roots
  | loader .. => .loaders

/-- What is remembered of a tree. -/
structure Memory where
  /-- The roots. -/
  roots : PackageRoots
  /-- The configurations. -/
  loaders : PnpLoaders
  deriving Repr

namespace Memory

/-- Nothing remembered. -/
def empty (marker : String) : Memory := ⟨.empty marker, .empty⟩

/-- The answer to a lookup, and what is remembered after it. -/
def ask (m : Memory) (looks : Probe) : Lookup → Except SearchError Found × Memory
  | .root ws path =>
    ((m.roots.find looks ws path).1.map .root, { m with roots := (m.roots.find looks ws path).2 })
  | .request ws file linter =>
    ((m.roots.findForRequest looks ws file linter).1.map .root,
      { m with roots := (m.roots.findForRequest looks ws file linter).2 })
  | .loader ws path =>
    ((m.loaders.find looks ws path).1.map .loader,
      { m with loaders := (m.loaders.find looks ws path).2 })

/-- Forgets what depends on a path. -/
def invalidate (m : Memory) : Kind → Path → Memory
  | .roots, p => { m with roots := m.roots.invalidate p }
  | .loaders, p => { m with loaders := m.loaders.invalidate p }

/-- Forgets what belongs to a workspace folder. -/
def clearWorkspace (m : Memory) : Kind → Path → Memory
  | .roots, ws => { m with roots := m.roots.clearWorkspace ws }
  | .loaders, ws => { m with loaders := m.loaders.clearWorkspace ws }

/-- Forgets everything. -/
def clear (m : Memory) : Kind → Memory
  | .roots => { m with roots := m.roots.clear }
  | .loaders => { m with loaders := m.loaders.clear }

end Memory

/-! ## What a lookup leaves behind -/

/-- Paths that are the same have one key. -/
lemma CacheKey.of_same {ws ws' path path' : Path} (hws : ws.Same ws') (hpath : path.Same path') :
    CacheKey.of ws path = .of ws' path' := by
  rw [CacheKey.of, CacheKey.of, show ws.components = _ from hws,
    show path.components = _ from hpath]

namespace PackageRoots

/-- The root of a path is remembered, with the paths that it depends on. -/
def Knows (r : PackageRoots) (ws path : Path) (root : Option Path) (sources : List Location) :
    Prop :=
  r.cache.find? (.of ws path) = some ⟨root, sources⟩

/-- The root of the package that installed the linter is remembered, if there is a linter. -/
def KnowsLinter (r : PackageRoots) (ws : Path) :
    Option Path → Option Path → List Location → Prop
  | some linter, root, sources => r.Knows ws (installerOf (linter.seenFrom ws)) root sources
  | none, root, sources => root = none ∧ sources = []

/-- What the root of a request comes from is remembered. -/
inductive KnowsRequest (r : PackageRoots) (ws : Path) :
    Option Path → Option Path → Option Path → List Location → Prop where
  /-- It comes from the linter, there being no code file. -/
  | ofLinter {linter root : Option Path} {sources : List Location}
    (h : r.KnowsLinter ws linter root sources) : KnowsRequest r ws none linter root sources
  /-- It comes from the code file. -/
  | ofFile {file root : Path} {sources : List Location} (linter : Option Path)
    (h : r.Knows ws file (some root) sources) :
    KnowsRequest r ws (some file) linter (some root) sources
  /-- It comes from the linter, the code file having none. -/
  | ofBoth {file : Path} {linter root : Option Path} {sources sources' : List Location}
    (hfile : r.Knows ws file none sources) (hlinter : r.KnowsLinter ws linter root sources') :
    KnowsRequest r ws (some file) linter root (sources ++ sources')

end PackageRoots

/-- What a lookup comes to is remembered, with the paths that it depends on. -/
def Memory.Remembers (m : Memory) : Lookup → Found → List Location → Prop
  | .root ws path, .root root, sources => m.roots.Knows ws path root sources
  | .request ws file linter, .root root, sources => m.roots.KnowsRequest ws file linter root sources
  | .loader ws path, .loader c, sources => m.loaders.cache.find? (.of ws path) = some ⟨c, sources⟩
  | _, _, _ => False

/-! ## What is remembered is answered without a look at the tree -/

namespace PackageRoots

variable {r r' : PackageRoots} {ws ws' path path' : Path} {root : Option Path}
  {sources : List Location}

/-- A known root is answered without a search. -/
lemma Knows.find_eq (h : r.Knows ws path root sources) (looks : Probe) :
    r.find looks ws path = (.ok root, r) := by
  unfold find known? FileCache.get?
  rw [h]
  rfl

/-- The root of a known linter is answered without a search. -/
lemma KnowsLinter.find_eq {linter : Option Path} (h : r.KnowsLinter ws linter root sources)
    (looks : Probe) : r.findForLinter looks ws linter = (.ok root, r) := by
  cases linter with
  | none =>
    obtain ⟨rfl, -⟩ := h
    rfl
  | some linter => exact Knows.find_eq h looks

/-- The root of a known request is answered without a search. -/
lemma KnowsRequest.find_eq {file linter : Option Path}
    (h : r.KnowsRequest ws file linter root sources) (looks : Probe) :
    r.findForRequest looks ws file linter = (.ok root, r) := by
  cases h with
  | ofLinter h => exact h.find_eq looks
  | ofFile linter h => rw [findForRequest, h.find_eq looks]
  | ofBoth hfile hlinter =>
    rw [findForRequest, hfile.find_eq looks]
    exact hlinter.find_eq looks

/-! ## What is remembered stays with its entries -/

/-- An entry of one of the workspace folder that depends on some of the paths at most stays. -/
def Keeps (r r' : PackageRoots) (ws : Path) (sources : List Location) : Prop :=
  ∀ key e, key.workspace = ws.components → e.sources ⊆ sources →
    r.cache.find? key = some e → r'.cache.find? key = some e

/-- What is known of a linter stays known while its entries stay. -/
lemma KnowsLinter.mono {linter : Option Path} (h : r.KnowsLinter ws linter root sources)
    (hkeeps : r.Keeps r' ws sources) : r'.KnowsLinter ws linter root sources := by
  cases linter with
  | none => exact h
  | some linter => exact hkeeps _ _ rfl (List.Subset.refl _) h

/-- What is known of a request stays known while its entries stay. -/
lemma KnowsRequest.mono {file linter : Option Path}
    (h : r.KnowsRequest ws file linter root sources) (hkeeps : r.Keeps r' ws sources) :
    r'.KnowsRequest ws file linter root sources := by
  cases h with
  | ofLinter h => exact .ofLinter (h.mono hkeeps)
  | ofFile linter h => exact .ofFile linter (hkeeps _ _ rfl (List.Subset.refl _) h)
  | ofBoth hfile hlinter =>
    refine .ofBoth (hkeeps _ _ rfl (List.subset_append_left _ _) hfile) (hlinter.mono ?_)
    exact fun key e hws he => hkeeps key e hws (List.Subset.trans he (List.subset_append_right _ _))

/-! ## The same is known by any spelling -/

/-- The folders that linters are installed for are the same for linters that are. -/
lemma installerOf_same {p p' : Path} (h : p.Same p') : (installerOf p).Same (installerOf p') := by
  unfold installerOf
  rw [show p.components = p'.components from h]
  dsimp only
  split
  · exact h
  · rfl

/-- What is known of a path is known of the same path spelled otherwise. -/
lemma Knows.same (h : r.Knows ws path root sources) (hws : ws.Same ws') (hpath : path.Same path') :
    r.Knows ws' path' root sources := by
  rwa [Knows, ← CacheKey.of_same hws hpath]

/-- What is known of a linter is known of the same path spelled otherwise. -/
lemma KnowsLinter.same {linter linter' : Option Path} (h : r.KnowsLinter ws linter root sources)
    (hws : ws.Same ws') (hlinter : SamePath? linter linter') :
    r.KnowsLinter ws' linter' root sources := by
  cases linter <;> cases linter'
  · exact h
  · cases hlinter
  · cases hlinter
  · exact Knows.same h hws (installerOf_same (Path.Same.seenFrom (Option.some.inj hlinter) hws))

/-- What is known of a request is known of the same paths spelled otherwise. -/
lemma KnowsRequest.same {file file' linter linter' : Option Path}
    (h : r.KnowsRequest ws file linter root sources) (hws : ws.Same ws')
    (hfile : SamePath? file file') (hlinter : SamePath? linter linter') :
    r.KnowsRequest ws' file' linter' root sources := by
  cases h with
  | ofLinter h =>
    cases file'
    · exact .ofLinter (h.same hws hlinter)
    · cases hfile
  | ofFile linter h =>
    cases file'
    · cases hfile
    · exact .ofFile linter' (h.same hws (Option.some.inj hfile))
  | ofBoth h hl =>
    cases file'
    · cases hfile
    · exact .ofBoth (h.same hws (Option.some.inj hfile)) (hl.same hws hlinter)

end PackageRoots

namespace Memory

variable {m m' : Memory} {q q' : Lookup} {found : Found} {sources : List Location}

/-- **What is remembered** is answered without a look at the tree, and nothing changes. -/
lemma Remembers.ask_eq (h : m.Remembers q found sources) (looks : Probe) :
    m.ask looks q = (.ok found, m) := by
  cases q <;> cases found <;> try exact h.elim
  · rw [ask, PackageRoots.Knows.find_eq h]
    rfl
  · rw [ask, PackageRoots.KnowsRequest.find_eq h]
    rfl
  · rename_i ws path c
    rw [ask, PnpLoaders.find_eq, FileCache.recollect_of_known h]
    rfl

/-- What is remembered stays as long as its entries stay. -/
lemma Remembers.mono (h : m.Remembers q found sources)
    (hroots : q.kind = .roots → m.roots.Keeps m'.roots q.workspace sources)
    (hloaders : q.kind = .loaders → ∀ key e, key.workspace = q.workspace.components →
      e.sources ⊆ sources → m.loaders.cache.find? key = some e →
        m'.loaders.cache.find? key = some e) : m'.Remembers q found sources := by
  cases q <;> cases found <;> try exact h.elim
  · exact hroots rfl _ _ rfl (List.Subset.refl _) h
  · exact PackageRoots.KnowsRequest.mono h (hroots rfl)
  · exact hloaders rfl _ _ rfl (List.Subset.refl _) h

/-- The same lookup is answered from the same entries. -/
lemma Remembers.same (h : m.Remembers q found sources) (hq : q.Same q') :
    m.Remembers q' found sources := by
  cases q <;> cases q' <;> cases found <;> try first | exact h.elim | exact hq.elim
  · exact PackageRoots.Knows.same h hq.1 hq.2
  · exact PackageRoots.KnowsRequest.same h hq.1 hq.2.1 hq.2.2
  · rw [Remembers, ← CacheKey.of_same hq.1 hq.2]
    exact h

end Memory

/-! ## A lookup comes to what a search comes to -/

/-- What is known may be said in other words. -/
lemma Faithful.imp {α β : Type} {Like : α → α → Prop} {Like' : β → β → Prop}
    {Known : α → List Location → Prop} {Known' : β → List Location → Prop} {f : α → β}
    {a : Except SearchError α} {b : Except SearchError (α × List Path)}
    (h : Faithful Like Known a b) (hlike : ∀ v w, Like v w → Like' (f v) (f w))
    (hknown : ∀ v sources, Known v sources → Known' (f v) sources) :
    Faithful Like' Known' (a.map f) (b.map fun s => (f s.1, s.2)) := by
  cases h with
  | error e => exact .error e
  | ok like known => exact .ok (hlike _ _ like) (hknown _ _ known)

namespace PackageRoots

/-- The remembered roots are what searches came to. -/
structure Backed (r : PackageRoots) (marker : String) (reach : Path → Prop)
    (untold : Location → Prop) (looks : Probe) : Prop where
  /-- The searches were for the marker. -/
  marker_eq : r.marker = marker
  /-- Every entry is what a search came to. -/
  cache : r.cache.Backed (rootSearch marker) reach untold looks

/-- What is remembered stays when the root of a path is found. -/
lemma find?_find {r : PackageRoots} {key : CacheKey} {e : CacheEntry (Option Path)}
    (h : r.cache.find? key = some e) (looks : Probe) (ws path : Path) :
    (r.find looks ws path).2.cache.find? key = some e := by
  rw [find_eq]
  exact FileCache.find?_recollect h _ _ _ _

/-- What is remembered stays when the root of a linter is found. -/
lemma find?_findForLinter {r : PackageRoots} {key : CacheKey} {e : CacheEntry (Option Path)}
    (h : r.cache.find? key = some e) (looks : Probe) (ws : Path) (linter : Option Path) :
    (r.findForLinter looks ws linter).2.cache.find? key = some e := by
  cases linter with
  | none => exact h
  | some linter => exact find?_find h looks ws _

/-- What is remembered stays when the root of a request is found. -/
lemma find?_findForRequest {r : PackageRoots} {key : CacheKey} {e : CacheEntry (Option Path)}
    (h : r.cache.find? key = some e) (looks : Probe) (ws : Path) (file linter : Option Path) :
    (r.findForRequest looks ws file linter).2.cache.find? key = some e := by
  cases file with
  | none => exact find?_findForLinter h looks ws linter
  | some file =>
    have hfind := find?_find h looks ws file
    rw [findForRequest]
    split
    · rename_i heq
      rw [heq] at hfind
      exact find?_findForLinter hfind looks ws linter
    · exact hfind

namespace Backed

variable {r : PackageRoots} {marker : String} {reach : Path → Prop} {looks : Probe}

/-- The root of a path is like the one that a search comes to. -/
protected lemma find (h : r.Backed marker reach (fun _ => False) looks)
    (heven : EvenHanded looks reach) (ws : Path) {path : Path}
    (hreach : ∀ p ∈ candidates path [marker], reach p) :
    (r.find looks ws path).2.Backed marker reach (fun _ => False) looks ∧
      Faithful SamePath? ((r.find looks ws path).2.Knows ws path) (r.find looks ws path).1
        (rootSearch marker looks ws path) := by
  obtain ⟨rfl, hcache⟩ := h
  obtain ⟨hbacked, hfaithful⟩ :=
    hcache.recollect (rootSearch_local r.marker) (fun _ => rfl) heven hreach ws
  rw [find_eq]
  exact ⟨⟨rfl, hbacked⟩, hfaithful⟩

/-- The root of a linter is like the one that a search comes to. -/
protected lemma findForLinter (h : r.Backed marker reach (fun _ => False) looks)
    (heven : EvenHanded looks reach) (ws : Path) {linter : Option Path}
    (hreach : ∀ p ∈ linter.elim [] fun l => candidates (installerOf (l.seenFrom ws)) [marker],
      reach p) :
    (r.findForLinter looks ws linter).2.Backed marker reach (fun _ => False) looks ∧
      Faithful SamePath? ((r.findForLinter looks ws linter).2.KnowsLinter ws linter)
        (r.findForLinter looks ws linter).1 (linterSearch marker looks ws linter) := by
  cases linter with
  | none => exact ⟨h, .ok rfl ⟨rfl, rfl⟩⟩
  | some linter => exact h.find heven ws hreach

/-- **The root of a request** is like the one that a search comes to.

**Proof sketch.** The root of the code file is like the one that is searched for, so either both
are there or both are missing, and in the second case both go on to the linter. -/
protected lemma findForRequest (h : r.Backed marker reach (fun _ => False) looks)
    (heven : EvenHanded looks reach) (ws : Path) {file linter : Option Path}
    (hreach : ∀ p ∈ (Lookup.request ws file linter).reach marker, reach p) :
    (r.findForRequest looks ws file linter).2.Backed marker reach (fun _ => False) looks ∧
      Faithful SamePath? ((r.findForRequest looks ws file linter).2.KnowsRequest ws file linter)
        (r.findForRequest looks ws file linter).1 (requestSearch marker looks ws file linter) := by
  cases file with
  | none =>
    obtain ⟨hbacked, hfaithful⟩ := h.findForLinter heven ws hreach
    refine ⟨hbacked, ?_⟩
    obtain ⟨e, ha, hb⟩ | ⟨v, w, probed, like, known, ha, hb⟩ := (faithful_iff ..).1 hfaithful
    · rw [findForRequest, requestSearch, ha, hb]
      exact .error e
    · rw [findForRequest, requestSearch, ha, hb]
      exact .ok like (.ofLinter known)
  | some file =>
    obtain ⟨hbacked, hfaithful⟩ := h.find heven ws fun p hp =>
      hreach p (List.mem_append_left _ hp)
    rw [findForRequest, requestSearch]
    rcases hfind : r.find looks ws file with ⟨answer, r'⟩
    rw [hfind] at hbacked hfaithful
    obtain ⟨e, rfl, hb⟩ | ⟨v, w, probed, like, known, rfl, hb⟩ := (faithful_iff ..).1 hfaithful
    · rw [hb]
      exact ⟨hbacked, .error e⟩
    · rw [hb]
      cases v <;> cases w
      · obtain ⟨hbacked', hfaithful'⟩ := hbacked.findForLinter heven ws fun p hp =>
          hreach p (List.mem_append_right _ hp)
        refine ⟨hbacked', ?_⟩
        obtain ⟨e, ha, hb⟩ | ⟨v, w, probed', like', known', ha, hb⟩ :=
          (faithful_iff ..).1 hfaithful'
        · rw [ha, hb]
          exact .error e
        · rw [ha, hb]
          refine .ok like' ?_
          rw [List.map_append]
          exact .ofBoth (find?_findForLinter known looks ws linter) known'
      · cases like
      · cases like
      · exact ⟨hbacked, .ok like (.ofFile linter known)⟩

end Backed

end PackageRoots

namespace Memory

/-- What is remembered is what searches came to. -/
structure Backed (m : Memory) (marker : String) (reach : Path → Prop)
    (untold : Kind → Location → Prop) (looks : Probe) : Prop where
  /-- The remembered roots are what searches came to. -/
  roots : m.roots.Backed marker reach (untold .roots) looks
  /-- The remembered configurations are what searches came to. -/
  loaders : m.loaders.cache.Backed loaderSearch reach (untold .loaders) looks

section

variable {m : Memory} {marker : String} {reach : Path → Prop}
  {untold untold' : Kind → Location → Prop} {looks looks' : Probe}

/-- Nothing is remembered that no search came to. -/
protected lemma Backed.empty : (empty marker).Backed marker reach untold looks :=
  ⟨⟨rfl, .empty⟩, .empty⟩

/-- More may be left untold, as long as it tells of every change. -/
lemma Backed.mono (h : m.Backed marker reach untold looks)
    (hmono : ∀ kind (p : Path), untold kind p.components ∨ looks p ≠ looks' p →
      untold' kind p.components) : m.Backed marker reach untold' looks' :=
  ⟨⟨h.roots.marker_eq, h.roots.cache.change (hmono .roots)⟩, h.loaders.change (hmono .loaders)⟩

/-- After an invalidation the path is no longer untold. -/
protected lemma Backed.invalidate (h : m.Backed marker reach untold looks) {kind : Kind} {p : Path}
    (hmono : ∀ k s, (k = kind → s ≠ p.components) → untold k s → untold' k s) :
    (m.invalidate kind p).Backed marker reach untold' looks := by
  obtain ⟨⟨hmarker, hroots⟩, hloaders⟩ := h
  cases kind with
  | roots =>
    refine ⟨⟨hmarker, hroots.invalidate fun s hs => hmono .roots s fun _ => hs⟩, ?_⟩
    refine hloaders.change fun p' h => hmono .loaders _ nofun ?_
    exact h.resolve_right fun hne => hne rfl
  | loaders =>
    refine ⟨⟨hmarker, hroots.change fun p' h => hmono .roots _ nofun ?_⟩, ?_⟩
    · exact h.resolve_right fun hne => hne rfl
    · exact hloaders.invalidate fun s hs => hmono .loaders s fun _ => hs

/-- Clearing one cache for a workspace folder leaves both backed. -/
protected lemma Backed.clearWorkspace (h : m.Backed marker reach untold looks) (kind : Kind)
    (ws : Path) : (m.clearWorkspace kind ws).Backed marker reach untold looks := by
  obtain ⟨⟨hmarker, hroots⟩, hloaders⟩ := h
  cases kind with
  | roots => exact ⟨⟨hmarker, hroots.clearWorkspace _⟩, hloaders⟩
  | loaders => exact ⟨⟨hmarker, hroots⟩, hloaders.clearWorkspace _⟩

/-- Clearing one cache leaves both backed. -/
protected lemma Backed.clear (h : m.Backed marker reach untold looks) (kind : Kind) :
    (m.clear kind).Backed marker reach untold looks := by
  obtain ⟨⟨hmarker, hroots⟩, hloaders⟩ := h
  cases kind with
  | roots => exact ⟨⟨hmarker, .empty⟩, hloaders⟩
  | loaders => exact ⟨⟨hmarker, hroots⟩, .empty⟩

end

/-- **A lookup** comes to what a search comes to, where nothing is untold, and what it needed is
remembered. -/
protected lemma Backed.ask {m : Memory} {marker : String} {reach : Path → Prop} {looks : Probe}
    (h : m.Backed marker reach (fun _ _ => False) looks) (heven : EvenHanded looks reach)
    {q : Lookup} (hreach : ∀ p ∈ q.reach marker, reach p) :
    (m.ask looks q).2.Backed marker reach (fun _ _ => False) looks ∧
      Faithful Found.Same ((m.ask looks q).2.Remembers q) (m.ask looks q).1
        (q.search marker looks) := by
  cases q with
  | root ws path =>
    obtain ⟨hbacked, hfaithful⟩ := h.roots.find heven ws hreach
    exact ⟨⟨hbacked, h.loaders⟩, hfaithful.imp (fun _ _ hlike => hlike) fun _ _ hknown => hknown⟩
  | request ws file linter =>
    obtain ⟨hbacked, hfaithful⟩ := h.roots.findForRequest heven ws hreach
    exact ⟨⟨hbacked, h.loaders⟩, hfaithful.imp (fun _ _ hlike => hlike) fun _ _ hknown => hknown⟩
  | loader ws path =>
    obtain ⟨hbacked, hfaithful⟩ :=
      h.loaders.recollect loaderSearch_local samePnp_refl heven hreach ws
    rw [ask, PnpLoaders.find_eq]
    exact ⟨⟨h.roots, hbacked⟩, hfaithful.imp (fun _ _ hlike => hlike) fun _ _ hknown => hknown⟩

/-! ## What stays remembered -/

/-- What is remembered stays when something is asked. -/
lemma Remembers.ask {m : Memory} {q : Lookup} {found : Found} {sources : List Location}
    (h : m.Remembers q found sources) (looks : Probe) (q' : Lookup) :
    (m.ask looks q').2.Remembers q found sources := by
  refine h.mono (fun _ key e _ _ he => ?_) fun _ key e _ _ he => ?_
  · cases q' with
    | root ws path => exact PackageRoots.find?_find he looks ws path
    | request ws file linter => exact PackageRoots.find?_findForRequest he looks ws file linter
    | loader ws path => exact he
  · cases q' with
    | root ws path => exact he
    | request ws file linter => exact he
    | loader ws path =>
      rw [Memory.ask, PnpLoaders.find_eq]
      exact FileCache.find?_recollect he _ _ _ _

/-- What is remembered stays when a path is invalidated that it does not depend on. -/
lemma Remembers.invalidate {m : Memory} {marker : String} {reach : Path → Prop}
    {untold : Kind → Location → Prop} {looks : Probe} (hb : m.Backed marker reach untold looks)
    {q : Lookup} {found : Found} {sources : List Location} (h : m.Remembers q found sources)
    {kind : Kind} {p : Path} (hp : ¬ (kind = q.kind ∧ p.components ∈ sources)) :
    (m.invalidate kind p).Remembers q found sources := by
  cases kind with
  | roots =>
    refine h.mono (fun hq key e _ he hentry => ?_) fun _ _ _ _ _ hentry => hentry
    refine (FileCache.find?_invalidate hb.roots.cache.indexed _).2 ⟨hentry, fun hmem => ?_⟩
    exact hp ⟨hq.symm, he hmem⟩
  | loaders =>
    refine h.mono (fun _ _ _ _ _ hentry => hentry) fun hq key e _ he hentry => ?_
    refine (FileCache.find?_invalidate hb.loaders.indexed _).2 ⟨hentry, fun hmem => ?_⟩
    exact hp ⟨hq.symm, he hmem⟩

/-- What is remembered stays when another workspace folder is cleared. -/
lemma Remembers.clearWorkspace {m : Memory} {marker : String} {reach : Path → Prop}
    {untold : Kind → Location → Prop} {looks : Probe} (hb : m.Backed marker reach untold looks)
    {q : Lookup} {found : Found} {sources : List Location} (h : m.Remembers q found sources)
    {kind : Kind} {ws : Path} (hws : ¬ (kind = q.kind ∧ ws.Same q.workspace)) :
    (m.clearWorkspace kind ws).Remembers q found sources := by
  cases kind with
  | roots =>
    refine h.mono (fun hq key e hkey _ hentry => ?_) fun _ _ _ _ _ hentry => hentry
    refine (FileCache.find?_clearWorkspace hb.roots.cache.indexed _).2 ⟨hentry, fun heq => ?_⟩
    exact hws ⟨hq.symm, heq.symm.trans hkey⟩
  | loaders =>
    refine h.mono (fun _ _ _ _ _ hentry => hentry) fun hq key e hkey _ hentry => ?_
    refine (FileCache.find?_clearWorkspace hb.loaders.indexed _).2 ⟨hentry, fun heq => ?_⟩
    exact hws ⟨hq.symm, heq.symm.trans hkey⟩

/-- What is remembered stays when the other memory is cleared. -/
lemma Remembers.clear {m : Memory} {q : Lookup} {found : Found} {sources : List Location}
    (h : m.Remembers q found sources) {kind : Kind} (hkind : kind ≠ q.kind) :
    (m.clear kind).Remembers q found sources := by
  cases kind with
  | roots => exact h.mono (fun hq => (hkind hq.symm).elim) fun _ _ _ _ _ hentry => hentry
  | loaders => exact h.mono (fun _ _ _ _ _ hentry => hentry) fun hq => (hkind hq.symm).elim

end Memory

end LintPool
