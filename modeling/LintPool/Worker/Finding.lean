import LintPool.Worker.Error
import LintPool.Worker.Message

set_option autoImplicit false

/-!
# What workers find

A worker is asked to lint or to resolve. It answers with a record of the kind that was asked for,
or with nothing when no linter applies.

## Main definitions

* `LintPool.Task` — what a worker is asked for.
* `LintPool.Finding` — what it found.
* `LintPool.Task.settle` — what a reply makes of a request.
-/

namespace LintPool

/-- What a worker is asked for. -/
inductive Task where
  | lint
  | resolve
  deriving Repr, DecidableEq, Inhabited

/-- The method that asks for a task. -/
def Task.method : Task → Method
  | .lint => .lint
  | .resolve => .resolve

/-- What a worker found. -/
inductive Finding where
  /-- The outcome of linting. -/
  | outcome (o : LintOutcome)
  /-- The linter that was resolved. -/
  | linter (l : ResolvedLinter)
  deriving Repr, BEq

namespace Finding

/-- Decodes the finding that a task asks for. -/
def read : Task → Json → Json.Decoded Finding
  | .lint, j => (LintOutcome.schema.read j).map .outcome
  | .resolve, j => (ResolvedLinter.schema.read j).map .linter

/-- The record of a finding. -/
def write : Finding → Json
  | .outcome o => LintOutcome.schema.write o
  | .linter l => ResolvedLinter.schema.write l

/-- The fields of the record in the order of declaration. -/
def declared : Finding → List (String × Json)
  | .outcome o => LintOutcome.schema.declared o
  | .linter l => ResolvedLinter.schema.declared l

end Finding

/-- What a call to a worker comes to: a finding, nothing when no linter applies, or a failure. -/
abbrev CallResult := Except WorkerError (Option Finding)

/-- What a reply makes of a request. -/
def Task.settle (task : Task) : Reply → CallResult
  | .error e => .error (.failed e.message)
  | .result value =>
    if value.isNull then .ok none
    else match Finding.read task value with
      | .ok f => .ok (some f)
      | .error e => .error (.failed s!"malformed {task.method.name} result: {e.message}")

end LintPool
