import LintPool.Proofs.Cache.Entries
import LintPool.Proofs.Environment.Material
import LintPool.Proofs.Path.Resolved
import LintPool.Proofs.Registry.Reuse
import LintPool.Proofs.Search.Spellings
import LintPool.Service.Basic

set_option autoImplicit false

/-!
# Requests that share a root

Requests are made one after the other of one service, in a world that does what it is asked and a
tree that does not change. The requests for one root, however they spell it, find the same
Plug'n'Play configuration. But the files of the workspace folder count too for the key of their
environment: requests from one folder have one key, if they spell the root alike, and the keys of
requests from two folders are of different bytes. So the folders in which a root lies take turns: a
request has the worker disposed of that another folder's request has left.

## Main definitions

* `LintPool.Surroundings.Steady` — a world that does what it is asked, and a tree that stays.
* `LintPool.Service.Request` — a request to lint, or to say which linter governs a file.
* `LintPool.Service.tell` — the contexts of requests, and what was noted for them.
* `LintPool.Service.Shared` — what requests have in common that share a root.

## Main results

* `LintPool.environmentInputs_ne` — the files that count tell workspace folders apart.
* `LintPool.Service.shared_of_same_root` — what requests have in common that share a root.
-/

namespace LintPool

open Registry (Course EndedCall)

/-! ## The folder in the key -/

/-- The manifests of two folders are the same only if the folders are. -/
lemma folder_same_of_join {folder folder' : Path}
    (h : folder.join ⟨manifestName⟩ = folder'.join ⟨manifestName⟩) : folder.Same folder' := by
  have hname : Path.IsSingleName manifestName.toList := ⟨by decide, by decide⟩
  have hcomponents := congrArg Path.components h
  rw [Path.components_join_name _ hname, Path.components_join_name _ hname] at hcomponents
  exact List.append_cancel_right hcomponents

/-- **The files that count tell workspace folders apart**, whatever spelling the root has. -/
theorem environmentInputs_ne {probe : Probe} {ws ws' root root' : Path} {entry : Option Path}
    (hsame : root.Same root') (hother : ¬ ws.Same ws') :
    environmentInputs probe ws root entry ≠ environmentInputs probe ws' root' entry := by
  intro hinputs
  unfold environmentInputs at hinputs
  have hfolders : ∀ folder, (folderInputs folder).length = 5 := fun _ => rfl
  have hlinter : ∀ folder, (linterInputs probe folder entry).length ≤ 2 := by
    intro folder
    cases entry with
    | none => simp [linterInputs]
    | some given =>
      simp only [linterInputs]
      cases linterManifest? probe (given.seenFrom folder) <;> simp
  have hlength := congrArg List.length hinputs
  simp only [List.length_append, hfolders] at hlength
  have hle := hlinter ws
  have hle' := hlinter ws'
  by_cases hown : ws.Same root
  · by_cases hown' : ws'.Same root'
    · exact hother (hown.trans (hsame.trans hown'.symm))
    · rw [if_pos hown, if_neg hown', List.length_nil, hfolders] at hlength
      omega
  · by_cases hown' : ws'.Same root'
    · rw [if_neg hown, if_pos hown', List.length_nil, hfolders] at hlength
      omega
    · -- the inputs of the two folders stand at the same place
      rw [if_neg hown, if_neg hown', List.append_assoc, List.append_assoc] at hinputs
      obtain ⟨-, hrest⟩ := List.append_inj hinputs (by rw [hfolders, hfolders])
      obtain ⟨hfolder, -⟩ := List.append_inj hrest (by rw [hfolders, hfolders])
      exact hother (folder_same_of_join (List.cons.inj hfolder).1)

/-! ## Requests -/

variable {σ : Type}

/-- A world that does what it is asked, files that stay as they are, work that does not crash, and
package managers that touch no worker. -/
structure Surroundings.Steady (env : Surroundings σ) (journal : σ → List Note) (t : FileTree) :
    Prop where
  /-- The world does what it is asked. -/
  world : env.world.Steady journal
  /-- The files stay as they are. -/
  files : ∀ s, env.files s = t
  /-- Package managers touch no worker. -/
  ask : ∀ m s, journal (env.ask m s).2 = journal s
  /-- Work does not crash. -/
  work : ∀ task params, SteadyWork journal (env.work task params)

namespace Service

/-- A request to lint, or to say which linter governs a file. -/
inductive Request where
  /-- To lint. -/
  | lint (r : LintRequest)
  /-- To say which linter governs a file. -/
  | resolve (r : ResolveRequest)

namespace Request

/-- The folder that the client has open. -/
def workspace : Request → Path
  | .lint r => r.workspaceFolder
  | .resolve r => r.workspaceFolder

/-- The file. -/
def file : Request → Option Path
  | .lint r => r.options.codeFilename
  | .resolve r => r.codeFilename

/-- The path of the linter. -/
def linter : Request → Option Path
  | .lint r => r.runnerOptions.stylelintPath
  | .resolve r => r.stylelintPath

/-- The manager whose global modules count. -/
def manager : Request → Manager
  | .lint r => r.runnerOptions.manager
  | .resolve r => r.runnerOptions.manager

/-- The task for the worker. -/
def task : Request → Task
  | .lint _ => .lint
  | .resolve _ => .resolve

/-- The parameters of the task. -/
def params (directory : Option Path) : Request → Json
  | .lint r => LintParams.write ⟨r.options, r.runnerOptions, directory⟩
  | .resolve r => ResolveParams.write ⟨r.stylelintPath, r.codeFilename, r.runnerOptions, directory⟩

/-- Serves a request. -/
def serve (env : Surroundings σ) (v : Service) (s : σ) :
    Request → Except ServiceError (Option Finding) × Service × σ
  | .lint r => Service.lint env r v s
  | .resolve r => Service.resolve env r v s

/-- The context of a request. -/
def context (t : FileTree) (v : Service) (x : Request) :
    Except SearchError WorkerContext × Service :=
  v.contextFor t x.workspace x.file x.linter

/-- Both kinds of requests are served alike: the worker of the context does the task. -/
lemma serve_eq (env : Surroundings σ) (v : Service) (s : σ) (x : Request) :
    x.serve env v s = match x.context (env.files s) v with
      | (.error e, v) => (.error (.search e), v, s)
      | (.ok c, v) =>
        let (directory, v, s) := globalModules env x.manager v s
        run env c x.task (x.params directory) v s := by
  cases x <;> rfl

end Request

/-- The contexts of requests, and what was noted for them; one without a context is left out. -/
def tell (env : Surroundings σ) (journal : σ → List Note) :
    List Request → Service → σ → List EndedCall
  | [], _, _ => []
  | x :: xs, v, s =>
    let rest := tell env journal xs (x.serve env v s).2.1 (x.serve env v s).2.2
    match (x.context (env.files s) v).1 with
    | .error _ => rest
    | .ok c => ⟨c, (journal (x.serve env v s).2.2).drop (journal s).length⟩ :: rest

/-! ## The context of a request -/

/-- A configuration is what a search in the tree from some spelling of a path comes to. -/
def Governs (t : FileTree) (key : CacheKey) (pnp : Option PnpConfiguration) : Prop :=
  ∃ path s, path.components = key.path ∧ findPnp t.isFile path = .ok s ∧ pnp = s.configuration

/-- Configurations of one path are the same. -/
lemma Governs.same {t : FileTree} {key key' : CacheKey} {pnp pnp' : Option PnpConfiguration}
    (h : Governs t key pnp) (h' : Governs t key' pnp') (hpath : key.path = key'.path) :
    samePnp pnp pnp' = true := by
  obtain ⟨path, s, hkey, hs, rfl⟩ := h
  obtain ⟨path', s', hkey', hs', rfl⟩ := h'
  exact findPnp_spellings (hkey.trans (hpath.trans hkey'.symm)) hs hs'

/-- What a context of a request is made of. -/
structure Makes (t : FileTree) (x : Request) (c : WorkerContext) : Prop where
  /-- The folder is that of the request. -/
  workspace : c.workspaceFolder = x.workspace
  /-- The configuration is one of the root. -/
  pnp : Governs t (.of x.workspace c.workerRoot) c.pnp
  /-- The key is that of the environment. -/
  key : c.environmentKey = some (environmentKey t x.workspace c.workerRoot x.linter)

/-- The context of a request. -/
lemma makes_context {t : FileTree} {v : Service} (h : v.loaders.cache.All (Governs t))
    (x : Request) : (x.context t v).2.registry = v.registry ∧
      (x.context t v).2.loaders.cache.All (Governs t) ∧
      ∀ c, (x.context t v).1 = .ok c → Makes t x c := by
  unfold Request.context contextFor rootFor
  rcases v.roots.findForRequest t.isFile x.workspace x.file x.linter with ⟨e | root, roots⟩
  · exact ⟨rfl, h, fun c hc => by cases hc⟩
  · simp only [Except.map]
    obtain ⟨hall, hfound⟩ :
        (v.loaders.find t.isFile x.workspace (root.getD x.workspace)).2.cache.All (Governs t) ∧
          ∀ pnp, (v.loaders.find t.isFile x.workspace (root.getD x.workspace)).1 = .ok pnp →
            Governs t (.of x.workspace (root.getD x.workspace)) pnp :=
      PnpLoaders.all_find h fun s hs => ⟨_, s, rfl, hs, rfl⟩
    rcases hfind : v.loaders.find t.isFile x.workspace (root.getD x.workspace) with
      ⟨e | pnp, loaders⟩ <;> rw [hfind] at hall hfound
    · exact ⟨rfl, hall, fun c hc => by cases hc⟩
    · refine ⟨rfl, hall, fun c hc => ?_⟩
      cases hc
      exact ⟨rfl, hfound pnp rfl, rfl⟩

/-! ## Requests, one after the other -/

variable {env : Surroundings σ} {journal : σ → List Note} {t : FileTree}

/-- Asking a package manager changes neither what is remembered nor the workers. -/
lemma globalModules_keeps (henv : env.Steady journal t) (m : Manager) (v : Service) (s : σ) :
    (globalModules env m v s).2.1.registry = v.registry ∧
      (globalModules env m v s).2.1.loaders = v.loaders ∧
      journal (globalModules env m v s).2.2 = journal s := by
  unfold globalModules
  cases v.modules with
  | none => exact ⟨rfl, rfl, rfl⟩
  | some g =>
    have hjournal : journal (g.resolve env.ask m s).2.2 = journal s := by
      unfold GlobalModules.resolve
      cases g.get? m with
      | some directory => rfl
      | none =>
        have hask := henv.ask m s
        rcases hasked : env.ask m s with ⟨transcript, s'⟩
        rw [hasked] at hask
        dsimp only
        cases transcript.bind m.modulesIn <;> exact hask
    exact ⟨rfl, rfl, hjournal⟩

/-- The worker of a context does a task: a call of the registry. -/
lemma run_eq_after (env : Surroundings σ) (journal : σ → List Note) (c : WorkerContext)
    (task : Task) (params : Json) (v : Service) (s : σ) (k : Course σ)
    (hregistry : k.registry = v.registry) (hstate : k.state = s) :
    (run env c task params v s).2 =
      ({ v with registry := (k.after env.world journal (.call c (env.work task params))).registry },
        (k.after env.world journal (.call c (env.work task params))).state) := by
  subst hstate
  unfold run
  rw [← hregistry]
  rfl

/-- How far a run has come that a service has made with its registry. -/
structure Follows (t : FileTree) (journal : σ → List Note) (v : Service) (s : σ) (k : Course σ) :
    Prop where
  /-- The slots hold the workers of the last calls. -/
  calm : k.Calm journal
  /-- The registry is that of the service. -/
  registry : k.registry = v.registry
  /-- The world is the same. -/
  state : k.state = s
  /-- What is remembered was found in the tree. -/
  loaders : v.loaders.cache.All (Governs t)

/-- A request without a context leaves the registry and the world as they are. -/
lemma Follows.serve_error {v : Service} {s : σ} {k : Course σ} (h : Follows t journal v s k)
    (henv : env.Steady journal t) {x : Request} {e : SearchError}
    (hx : (x.context (env.files s) v).1 = .error e) :
    Follows t journal (x.serve env v s).2.1 (x.serve env v s).2.2 k := by
  rw [henv.files] at hx
  obtain ⟨hregistry, hloaders, -⟩ := makes_context h.loaders x
  rw [Request.serve_eq, henv.files]
  rcases hcontext : x.context t v with ⟨e' | c, v'⟩ <;> rw [hcontext] at hx hregistry hloaders
  · exact ⟨h.calm, h.registry.trans hregistry.symm, h.state, hloaders⟩
  · cases hx

/-- **A request with a context** is a call of the registry. -/
lemma Follows.serve_ok {v : Service} {s : σ} {k : Course σ} (h : Follows t journal v s k)
    (henv : env.Steady journal t) {x : Request} {c : WorkerContext}
    (hx : (x.context (env.files s) v).1 = .ok c) :
    ∃ notes k', journal (x.serve env v s).2.2 = journal s ++ notes ∧ Makes t x c ∧
      Follows t journal (x.serve env v s).2.1 (x.serve env v s).2.2 k' ∧
      k'.previous c.workerRoot.components = some ⟨c, notes⟩ ∧
      (notes.any Note.isCreation = true ↔
        ∀ last, k.previous c.workerRoot.components = some last → ¬ last.Alike c) := by
  rw [henv.files] at hx
  obtain ⟨hregistry, hloaders, hmakes⟩ := makes_context h.loaders x
  have hmade := hmakes c hx
  rw [Request.serve_eq, henv.files]
  rcases hcontext : x.context t v with ⟨e' | c', v'⟩ <;> rw [hcontext] at hx hregistry hloaders
  · cases hx
  · cases hx
    obtain ⟨hregistry', hloaders', hjournal'⟩ := globalModules_keeps henv x.manager v' s
    dsimp only at hregistry hloaders ⊢
    rcases hmodules : globalModules env x.manager v' s with ⟨directory, v'', s''⟩
    rw [hmodules] at hregistry' hloaders' hjournal'
    dsimp only at hregistry' hloaders' hjournal' ⊢
    -- the manager is asked, then the registry is called
    have hcalm : (⟨k.registry, s'', k.previous⟩ : Course σ).Calm journal := by
      refine h.calm.same rfl ?_ fun root => ?_
      · rw [hjournal', h.state]
      · cases hat : k.registry.slots.at? root with
        | some slot => rfl
        | none => exact h.calm.gone root hat
    have hwork := henv.work x.task (x.params directory)
    obtain ⟨notes, live, hnotes, -, hprevious, hcalm'⟩ := hcalm.call (c := c) henv.world hwork
    obtain ⟨notes', hnotes', haccounted⟩ := hcalm.accounted henv.world hwork c
    obtain rfl : notes = notes' := List.append_cancel_left (hnotes.symm.trans hnotes')
    have hrun := run_eq_after env journal c x.task (x.params directory) v'' s''
      ⟨k.registry, s'', k.previous⟩ (by rw [hregistry', hregistry, h.registry]) rfl
    refine ⟨notes, _, ?_, hmade, ?_, hprevious, haccounted.creation⟩
    · rw [hrun, ← hjournal']
      exact hnotes
    · rw [hrun]
      exact ⟨hcalm', rfl, rfl, hloaders' ▸ hloaders⟩

/-- What is told of requests for one root: each has a worker created just if its environment is not
that of the one before. -/
def Chained : Option EndedCall → List EndedCall → Prop
  | _, [] => True
  | previous, y :: ys =>
    (y.notes.any Note.isCreation = true ↔ ∀ last, previous = some last → ¬ last.Alike y.context) ∧
      Chained (some y) ys

/-- What is told of requests for one root. -/
lemma chained_tell (henv : env.Steady journal t) {root : Location} {rs : List Request} {v : Service}
    {s : σ} {k : Course σ} (h : Follows t journal v s k)
    (hroot : ∀ y ∈ tell env journal rs v s, y.context.workerRoot.components = root) :
    Chained (k.previous root) (tell env journal rs v s) ∧
      ∀ y ∈ tell env journal rs v s, ∃ x ∈ rs, Makes t x y.context := by
  induction rs generalizing v s k with
  | nil => exact ⟨trivial, fun y hy => by cases hy⟩
  | cons x rs ih =>
    rw [tell] at hroot ⊢
    rcases hcontext : (x.context (env.files s) v).1 with e | c <;>
      simp only [hcontext] at hroot ⊢
    · obtain ⟨hchained, hmakes⟩ := ih (h.serve_error henv hcontext) hroot
      refine ⟨hchained, fun y hy => ?_⟩
      obtain ⟨x', hx', hmade⟩ := hmakes y hy
      exact ⟨x', List.mem_cons_of_mem x hx', hmade⟩
    · obtain ⟨notes, k', hnotes, hmade, hfollows, hprevious, hcreation⟩ :=
        h.serve_ok henv hcontext
      rw [List.forall_mem_cons] at hroot
      obtain ⟨hchained, hmakes⟩ := ih hfollows hroot.2
      have hhere : c.workerRoot.components = root := hroot.1
      rw [hhere] at hprevious hcreation
      rw [hnotes, List.drop_left] at hroot ⊢
      refine ⟨⟨hcreation, hprevious ▸ hchained⟩, fun y hy => ?_⟩
      rcases List.mem_cons.1 hy with rfl | hy
      · exact ⟨x, List.mem_cons_self, hmade⟩
      · obtain ⟨x', hx', hmade'⟩ := hmakes y hy
        exact ⟨x', List.mem_cons_of_mem x hx', hmade'⟩

/-- Two neighbours in what is told. -/
lemma Chained.next {previous : Option EndedCall} {before after : List EndedCall} {y z : EndedCall}
    (h : Chained previous (before ++ y :: z :: after)) :
    z.notes.any Note.isCreation = true ↔ ¬ y.Alike z.context := by
  induction before generalizing previous with
  | nil =>
    rw [h.2.1]
    exact ⟨fun hall => hall y rfl, fun hnot last hlast => by cases hlast; exact hnot⟩
  | cons w before ih => exact ih h.2

/-- The files that count in the environment of a call. -/
def inputsOf (t : FileTree) (linter : Option Path) (y : EndedCall) : List Path :=
  environmentInputs t.isFile y.context.workspaceFolder y.context.workerRoot linter

/-- The bytes that the key of a call is the digest of. -/
def materialOf (t : FileTree) (linter : Option Path) (y : EndedCall) : Bytes :=
  environmentMaterial t y.context.workspaceFolder y.context.workerRoot linter

/-- The folders of a call have no NUL in their paths. -/
def Plain (y : EndedCall) : Prop :=
  y.context.workspaceFolder.NulFree ∧ y.context.workerRoot.NulFree

/-- In one tree the bytes tell just the paths of the files that count. -/
lemma materialOf_eq_iff {linter : Option Path} (hlinter : ∀ l ∈ linter, l.NulFree)
    {y z : EndedCall} (hy : Plain y) (hz : Plain z) :
    materialOf t linter y = materialOf t linter z ↔ inputsOf t linter y = inputsOf t linter z := by
  unfold materialOf environmentMaterial
  rw [flatMap_material_inj (fun p hp => nulFree_of_mem_environmentInputs hy.1 hy.2 hlinter hp)
    (fun p hp => nulFree_of_mem_environmentInputs hz.1 hz.2 hlinter hp)]
  exact ⟨And.left, fun h => ⟨h, fun _ _ => rfl⟩⟩

/-- What requests have in common that name one linter and share a root. -/
structure Shared (t : FileTree) (linter : Option Path) (told : List EndedCall) : Prop where
  /-- Their configurations are the same. -/
  pnp : ∀ y ∈ told, ∀ z ∈ told, samePnp y.context.pnp z.context.pnp = true
  /-- Their keys are the same if they come from one folder and spell the root alike. -/
  key : ∀ y ∈ told, ∀ z ∈ told, y.context.workspaceFolder = z.context.workspaceFolder →
    y.context.workerRoot = z.context.workerRoot →
      y.context.environmentKey = z.context.environmentKey
  /-- Their keys are of the same bytes just if the same paths count for them; unless these bytes
  collide, the keys are the same just then. -/
  bytes : (∀ l ∈ linter, l.NulFree) → ∀ y ∈ told, ∀ z ∈ told, Plain y → Plain z →
    (materialOf t linter y = materialOf t linter z ↔ inputsOf t linter y = inputsOf t linter z) ∧
      (NoCollision (materialOf t linter y) (materialOf t linter z) →
        (y.context.environmentKey = z.context.environmentKey ↔
          inputsOf t linter y = inputsOf t linter z))
  /-- Other paths count for them if they come from two folders. -/
  other : ∀ y ∈ told, ∀ z ∈ told, ¬ y.context.workspaceFolder.Same z.context.workspaceFolder →
    inputsOf t linter y ≠ inputsOf t linter z
  /-- A worker is created for the first one. -/
  first : ∀ y more, told = y :: more → y.notes.any Note.isCreation = true
  /-- A worker is created for another one just if its key is not that of the one before. -/
  next : ∀ before y z after, told = before ++ y :: z :: after →
    (z.notes.any Note.isCreation = true ↔
      y.context.environmentKey ≠ z.context.environmentKey)

/-- What is told of requests that are the first ones of a service. -/
lemma told_of_first (henv : env.Steady journal t) {settings : Settings} {v : Service} {s : σ}
    (hregistry : v.registry = .ofSettings settings) (hloaders : v.loaders = .empty)
    {rs : List Request} {root : Location}
    (hroot : ∀ y ∈ tell env journal rs v s, y.context.workerRoot.components = root) :
    Chained none (tell env journal rs v s) ∧
      ∀ y ∈ tell env journal rs v s, ∃ x ∈ rs, Makes t x y.context := by
  have hfollows : Follows t journal v s (.start settings s) :=
    ⟨.start settings s, hregistry.symm, rfl, by rw [hloaders]; exact .empty⟩
  exact chained_tell henv hfollows hroot

/-- **Requests that share a root** and name one linter have the same configuration. They have the
same key if they come from one workspace folder and spell the root alike, but if they come from two
folders, other files count for them, and their keys are of different bytes. A worker is created for
the first one, and for each whose key is not that of the one before. -/
theorem shared_of_same_root (henv : env.Steady journal t) {settings : Settings} {v : Service}
    {s : σ} (hregistry : v.registry = .ofSettings settings) (hloaders : v.loaders = .empty)
    {rs : List Request} {linter : Option Path} (hlinter : ∀ x ∈ rs, x.linter = linter)
    {root : Location}
    (hroot : ∀ y ∈ tell env journal rs v s, y.context.workerRoot.components = root) :
    Shared t linter (tell env journal rs v s) := by
  obtain ⟨hchained, hmakes⟩ := told_of_first henv hregistry hloaders hroot
  have hdigest : ∀ y ∈ tell env journal rs v s, y.context.environmentKey =
      some (Sha256.digest (materialOf t linter y)) := by
    intro y hy
    obtain ⟨x, hx, hmade⟩ := hmakes y hy
    rw [hmade.key, ← hmade.workspace, hlinter x hx]
    rfl
  have hpnp : ∀ y ∈ tell env journal rs v s, ∀ z ∈ tell env journal rs v s,
      samePnp y.context.pnp z.context.pnp = true := by
    intro y hy z hz
    obtain ⟨x, -, hmade⟩ := hmakes y hy
    obtain ⟨x', -, hmade'⟩ := hmakes z hz
    exact hmade.pnp.same hmade'.pnp ((hroot y hy).trans (hroot z hz).symm)
  refine ⟨hpnp, ?_, ?_, ?_, ?_, ?_⟩
  · intro y hy z hz hws hsame
    rw [hdigest y hy, hdigest z hz, materialOf, materialOf, hws, hsame]
  · intro hentry y hy z hz hplain hplain'
    have hmaterial := materialOf_eq_iff (t := t) hentry hplain hplain'
    refine ⟨hmaterial, fun hno => ?_⟩
    rw [hdigest y hy, hdigest z hz, Option.some.injEq, ← hmaterial]
    exact ⟨hno, congrArg _⟩
  · intro y hy z hz hother
    exact environmentInputs_ne ((hroot y hy).trans (hroot z hz).symm) hother
  · intro y more htold
    rw [htold] at hchained
    exact hchained.1.2 fun last hlast => by cases hlast
  · intro before y z after htold
    have hy : y ∈ tell env journal rs v s := by simp [htold]
    have hz : z ∈ tell env journal rs v s := by simp [htold]
    rw [htold] at hchained
    rw [hchained.next]
    exact ⟨fun hnot hkeys => hnot ⟨hkeys, hpnp y hy z hz⟩, fun hne halike => hne halike.1⟩

/-! ## Nested folders -/

/-- A tree with one package. -/
def onePackage : FileTree where
  root := .folder 0 [("p".toList, .folder 0 [("package.json".toList, .file [] 0 false)])]
  current := []

/-- There are no links in that tree. -/
lemma onePackage_linkFree : onePackage.LinkFree :=
  Node.linkFree_folder (by simp [Node.linkFree_folder, Node.linkFree_file])

/-- A world that keeps a journal, and the tree. -/
def diarySurroundings : Surroundings (List Note) where
  world := Course.diary
  files _ := onePackage
  ask _ notes := (none, notes)
  work _ _ := fun w notes => (.ok none, notes ++ [.worked w])

/-- Those surroundings are steady. -/
lemma diarySurroundings_steady : diarySurroundings.Steady id onePackage where
  world := Course.diary_steady
  files _ := rfl
  ask _ _ := rfl
  work _ _ := fun _ _ => ⟨rfl, fun _ h => by cases h⟩

/-- Requests for one file from a folder and from a folder in it. -/
def nestedRequests : List Request :=
  [ .resolve ⟨⟨"/"⟩, none, some ⟨"/p/a.css"⟩, .blank⟩,
    .resolve ⟨⟨"/p"⟩, none, some ⟨"/p/a.css"⟩, .blank⟩ ]

/-- What is told of them: two calls for one root, from the two folders. -/
lemma told_nestedRequests : ∃ y z,
    tell diarySurroundings id nestedRequests (.ofSettings .standard) [] = [y, z] ∧
      y.context.workspaceFolder = ⟨"/"⟩ ∧ y.context.workerRoot = ⟨"/p"⟩ ∧
      z.context.workspaceFolder = ⟨"/p"⟩ ∧ z.context.workerRoot = ⟨"/p"⟩ := by
  have htold : (tell diarySurroundings id nestedRequests (.ofSettings .standard) []).map
      (fun y => (y.context.workspaceFolder, y.context.workerRoot)) =
        [(⟨"/"⟩, ⟨"/p"⟩), (⟨"/p"⟩, ⟨"/p"⟩)] := by
    simp only [nestedRequests, tell, Request.context, Request.serve_eq, contextFor, rootFor,
      diarySurroundings, FileTree.isFile_eq_isFileDown onePackage_linkFree]
    decide +kernel
  obtain ⟨y, rest, hy, heq, hrest⟩ := List.map_eq_cons_iff.1 htold
  obtain ⟨z, rest', hz, heq', hrest'⟩ := List.map_eq_cons_iff.1 hrest
  rw [List.map_eq_nil_iff.1 hrest'] at hz
  exact ⟨y, z, hy.trans (by rw [hz]), congrArg Prod.fst heq, congrArg Prod.snd heq,
    congrArg Prod.fst heq', congrArg Prod.snd heq'⟩

/-- The two calls share a root. -/
lemma root_nestedRequests :
    ∀ y ∈ tell diarySurroundings id nestedRequests (.ofSettings .standard) [],
      y.context.workerRoot.components = (⟨"/p"⟩ : Path).components := by
  obtain ⟨y, z, htold, -, hy, -, hz⟩ := told_nestedRequests
  rw [htold]
  simp [hy, hz]

/-- The fingerprints of the package as seen from the two folders. -/
lemma digest_onePackage_ne : Sha256.digest (environmentMaterial onePackage ⟨"/"⟩ ⟨"/p"⟩ none) ≠
    Sha256.digest (environmentMaterial onePackage ⟨"/p"⟩ ⟨"/p"⟩ none) := by
  rw [environmentMaterial_eq_of_linkFree onePackage_linkFree,
    environmentMaterial_eq_of_linkFree onePackage_linkFree]
  decide +kernel

/-- The request from the inner folder has the worker of the outer one replaced. -/
theorem shared_of_same_root_nested : ∃ y z,
    tell diarySurroundings id nestedRequests (.ofSettings .standard) [] = [y, z] ∧
      samePnp y.context.pnp z.context.pnp = true ∧
      y.context.environmentKey ≠ z.context.environmentKey ∧
      y.notes.any Note.isCreation = true ∧ z.notes.any Note.isCreation = true := by
  obtain ⟨y, z, htold, hws, hroot, hws', hroot'⟩ := told_nestedRequests
  have hshared : Shared onePackage none
      (tell diarySurroundings id nestedRequests (.ofSettings .standard) []) :=
    shared_of_same_root diarySurroundings_steady rfl rfl (by decide) root_nestedRequests
  rw [htold] at hshared
  have hno : NoCollision (materialOf onePackage none y) (materialOf onePackage none z) := by
    rw [materialOf, materialOf, hws, hroot, hws', hroot']
    exact fun h => absurd h digest_onePackage_ne
  have hplain : Plain y := by
    rw [Plain, hws, hroot]
    decide
  have hplain' : Plain z := by
    rw [Plain, hws', hroot']
    decide
  have hne : y.context.environmentKey ≠ z.context.environmentKey := by
    rw [ne_eq, (hshared.bytes (by simp) y (by simp) z (by simp) hplain hplain').2 hno]
    exact hshared.other y (by simp) z (by simp) (by rw [hws, hws']; decide)
  exact ⟨y, z, htold, hshared.pnp y (by simp) z (by simp), hne, hshared.first y [z] rfl,
    (hshared.next [] y z [] rfl).2 hne⟩

/-- Requests that share a root do not share its worker: neither are their keys the same, nor is one
worker created. -/
theorem not_one_worker_for_root : ¬ ∀ (env : Surroundings (List Note)) (t : FileTree)
    (rs : List Request) (linter : Option Path) (root : Location), env.Steady id t →
      (∀ x ∈ rs, x.linter = linter) →
      (∀ y ∈ tell env id rs (.ofSettings .standard) [],
        y.context.workerRoot.components = root) →
      (∀ y ∈ tell env id rs (.ofSettings .standard) [],
        ∀ z ∈ tell env id rs (.ofSettings .standard) [],
          y.context.environmentKey = z.context.environmentKey ∧
            samePnp y.context.pnp z.context.pnp = true) ∧
      ((tell env id rs (.ofSettings .standard) []).flatMap (·.notes)).countP
        Note.isCreation ≤ 1 := by
  intro hall
  obtain ⟨y, z, htold, hws, hroot, hws', hroot'⟩ := told_nestedRequests
  obtain ⟨hkeys, -⟩ := hall diarySurroundings onePackage nestedRequests none _
    diarySurroundings_steady (by decide) root_nestedRequests
  obtain ⟨-, hmakes⟩ := told_of_first diarySurroundings_steady rfl rfl root_nestedRequests
  rw [htold] at hkeys hmakes
  obtain ⟨x, hx, hmade⟩ := hmakes y (by simp)
  obtain ⟨x', hx', hmade'⟩ := hmakes z (by simp)
  have hlinter : ∀ x ∈ nestedRequests, x.linter = none := by decide
  have hsame := (hkeys y (by simp) z (by simp)).1
  rw [hmade.key, hmade'.key, ← hmade.workspace, ← hmade'.workspace, hws, hws', hroot, hroot',
    hlinter x hx, hlinter x' hx'] at hsame
  exact digest_onePackage_ne (Option.some.inj hsame)

end Service

end LintPool
