import LintPool.Cache.PackageRoots
import LintPool.Cache.PnpLoaders
import LintPool.Environment.Key
import LintPool.Record.Options
import LintPool.Registry.Run
import LintPool.Search.GlobalModules
import LintPool.Worker.Finding

set_option autoImplicit false

/-!
# Linting for a workspace

A request names a file in a workspace folder. The service finds the root that the file belongs to,
the Plug'n'Play scripts that govern the root and the key of its environment, asks the package
manager for the directory of globally installed modules, and has the worker of the root do the
rest.

## Main definitions

* `LintPool.Service` — the registry and what is remembered.
* `LintPool.Service.contextFor` — the context of a worker for a file.
* `LintPool.Service.lint`, `LintPool.Service.resolve` — requests.
* `LintPool.Service.fileActivity`, `LintPool.Service.release` — what is no longer so.
-/

namespace LintPool

/-- The registry and what is remembered. -/
structure Service where
  /-- The workers. -/
  registry : Registry
  /-- The roots of files. -/
  roots : PackageRoots
  /-- The Plug'n'Play configurations of roots. -/
  loaders : PnpLoaders
  /-- The directories of globally installed modules, if workers are to know them. -/
  modules : Option GlobalModules
  deriving Repr

/-- Why a request fails. -/
inductive ServiceError where
  /-- The root of the file cannot be found. -/
  | search (e : SearchError)
  /-- The worker fails. -/
  | worker (e : WorkerError)
  deriving Repr, DecidableEq

/-- The wording of a service error. -/
def ServiceError.message : ServiceError → String
  | .search e => e.message
  | .worker e => e.message

/-- Whether the user is to be told. -/
def ServiceError.notifyUser : ServiceError → Bool
  | .search _ => true
  | .worker e => e.notifyUser

/-- What a service asks of a world in state `σ`. -/
structure Surroundings (σ : Type) where
  /-- What the registry asks. -/
  world : World σ
  /-- The files. -/
  files : σ → FileTree
  /-- Runs the command of a package manager. -/
  ask : Manager → σ → Option Transcript × σ
  /-- Has a worker do a task with parameters. -/
  work : Task → Json → Registry.Work σ (Option Finding)

namespace Service

variable {σ : Type}

/-- A service that has done nothing. -/
def ofSettings (s : Settings) : Service :=
  ⟨.ofSettings s, .empty s.packageMarker, .empty, none⟩

/-- A service whose workers are to know the directory of globally installed modules. -/
def withGlobalModules (v : Service) : Service := { v with modules := some .empty }

/-- The root for a request: the one that is found, else the workspace folder. -/
def rootFor (v : Service) (probe : Probe) (workspace : Path) (file linter : Option Path) :
    Except SearchError Path × Service :=
  let (found, roots) := v.roots.findForRequest probe workspace file linter
  (found.map fun root => root.getD workspace, { v with roots })

/-- The context of a worker for a file. -/
def contextFor (v : Service) (files : FileTree) (workspace : Path) (file linter : Option Path) :
    Except SearchError WorkerContext × Service :=
  match v.rootFor files.isFile workspace file linter with
  | (.error e, v) => (.error e, v)
  | (.ok root, v) =>
    match v.loaders.find files.isFile workspace root with
    | (.error e, loaders) => (.error e, { v with loaders })
    | (.ok pnp, loaders) =>
      (.ok ⟨workspace, root, pnp, some (environmentKey files workspace root linter)⟩,
        { v with loaders })

/-- The directory of globally installed modules, if workers are to know it. -/
def globalModules (env : Surroundings σ) (m : Manager) (v : Service) (s : σ) :
    Option Path × Service × σ :=
  match v.modules with
  | none => (none, v, s)
  | some g =>
    let (found, g, s) := g.resolve env.ask m s
    (found, { v with modules := some g }, s)

/-- Has the worker of a context do a task. -/
def run (env : Surroundings σ) (c : WorkerContext) (task : Task) (params : Json) (v : Service)
    (s : σ) : Except ServiceError (Option Finding) × Service × σ :=
  let (result, registry, s) := Registry.run env.world (env.work task params) c v.registry s
  (result.mapError .worker, { v with registry }, s)

/-- Lints. -/
def lint (env : Surroundings σ) (r : LintRequest) (v : Service) (s : σ) :
    Except ServiceError (Option Finding) × Service × σ :=
  match v.contextFor (env.files s) r.workspaceFolder r.options.codeFilename
      r.runnerOptions.stylelintPath with
  | (.error e, v) => (.error (.search e), v, s)
  | (.ok c, v) =>
    let (directory, v, s) := globalModules env r.runnerOptions.manager v s
    run env c .lint (LintParams.write ⟨r.options, r.runnerOptions, directory⟩) v s

/-- Says which linter governs a file. -/
def resolve (env : Surroundings σ) (r : ResolveRequest) (v : Service) (s : σ) :
    Except ServiceError (Option Finding) × Service × σ :=
  match v.contextFor (env.files s) r.workspaceFolder r.codeFilename r.stylelintPath with
  | (.error e, v) => (.error (.search e), v, s)
  | (.ok c, v) =>
    let (directory, v, s) := globalModules env r.runnerOptions.manager v s
    run env c .resolve
      (ResolveParams.write ⟨r.stylelintPath, r.codeFilename, r.runnerOptions, directory⟩) v s

/-- A document was opened or a folder added: crashed workers get another chance. -/
def workspaceActivity (v : Service) (folder : Path) : Service :=
  { v with registry := (v.registry.workspaceActivity folder.components).2 }

/-- A file changed: crashed workers get another chance, and what depends on the file is
forgotten. -/
def fileActivity (v : Service) (path : Path) : Service :=
  { v with
    registry := (v.registry.fileActivity path.components).2
    roots := v.roots.invalidate path
    loaders := v.loaders.invalidate path }

/-- A folder is closed: workers that only it uses are disposed of, and what is remembered of it is
forgotten. -/
def release (env : Surroundings σ) (folder : Path) (v : Service) (s : σ) : Service × σ :=
  let (workers, registry) := v.registry.release folder.components
  ({ v with
      registry
      roots := v.roots.clearWorkspace folder
      loaders := v.loaders.clearWorkspace folder },
    Registry.tearDown env.world workers s)

/-- All workers are disposed of, and everything is forgotten. -/
def shutDown (env : Surroundings σ) (v : Service) (s : σ) : Service × σ :=
  let (workers, registry) := v.registry.drain
  ({ v with registry, roots := v.roots.clear, loaders := v.loaders.clear },
    Registry.tearDown env.world workers s)

end Service

end LintPool
