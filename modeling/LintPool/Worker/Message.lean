import LintPool.Record.Outcome

set_option autoImplicit false

/-!
# Messages between the pool and a worker

The pool sends requests; a worker answers each with a result, null when no linter applies, or with
an error, and may send log messages at any time. A reply to a request is understood whatever the
shape of its error is.

## Main definitions

* `LintPool.Method`, `LintPool.requestFrame` — requests.
* `LintPool.Incoming`, `LintPool.Incoming.ofFrame?` — what a frame from a worker says.
* `LintPool.launchArguments` — the arguments that a worker is started with.
-/

namespace LintPool

/-- What a request asks for. -/
inductive Method where
  | lint
  | resolve
  | shutdown
  deriving Repr, DecidableEq

/-- The name of a method. -/
def Method.name : Method → String
  | .lint => "lint"
  | .resolve => "resolve"
  | .shutdown => "shutdown"

/-- The frame of a request. -/
def requestFrame (id : Nat) (method : Method) (params : Json) : Json :=
  .object
    [("jsonrpc", .str "2.0"), ("id", .ofNat id), ("method", .str method.name), ("params", params)]

/-- An error that a worker answers with. -/
structure ReplyError where
  /-- A number for the kind of error. -/
  code : Int
  /-- What went wrong. -/
  message : String
  deriving Repr, DecidableEq

/-- The layout of an error. -/
def ReplyError.schema : Json.Schema ReplyError where
  name := "RpcError"
  mayEndEarly := false
  blank := ⟨0, ""⟩
  fields :=
    [ .of "code" false Json.asInteger .int (·.code) fun v r => { r with code := v },
      .of "message" true (Json.asText .text) .str (·.message) fun v r => { r with message := v } ]

/-- The text of an error that is no error record. -/
def rawErrorText : Json → String
  | .str s => s
  | j => j.render

/-- The error that a reply carries, whatever its shape. -/
def ReplyError.ofJson (error : Json) : ReplyError :=
  match ReplyError.schema.read error with
  | .ok e => e
  | .error _ => ⟨0, rawErrorText error⟩

/-- How serious a log message is. -/
inductive LogLevel where
  | error
  | warn
  | info
  | debug
  deriving Repr, DecidableEq

/-- The name of a log level. -/
def LogLevel.name : LogLevel → String
  | .error => "error"
  | .warn => "warn"
  | .info => "info"
  | .debug => "debug"

/-- Decodes a log level. -/
def LogLevel.read : Json → Json.Decoded LogLevel :=
  Json.readVariant ([LogLevel.error, .warn, .info, .debug].map fun l => (l.name, l))

/-- A log message. -/
structure LogMessage where
  /-- How serious it is. -/
  level : LogLevel
  /-- What it says. -/
  message : String
  deriving Repr, DecidableEq

/-- The layout of a log message. -/
def LogMessage.schema : Json.Schema LogMessage where
  name := "LogParams"
  mayEndEarly := false
  blank := ⟨.error, ""⟩
  fields :=
    [ .of "level" true LogLevel.read (fun l => .str l.name) (·.level)
        fun v r => { r with level := v },
      .of "message" true (Json.asText .text) .str (·.message) fun v r => { r with message := v } ]

/-- What a request came to: a result, or an error. -/
inductive Reply where
  | result (value : Json)
  | error (e : ReplyError)
  deriving Repr, BEq

/-- What a frame from a worker says. -/
inductive Incoming where
  | response (id : Nat) (reply : Reply)
  | log (message : LogMessage)
  deriving Repr, BEq

/-- The reply in the fields of a response: an error that is not null wins over a result, and a
missing result is null. -/
def Reply.ofFields (fields : List (String × Json)) : Reply :=
  match Json.lookup "error" fields with
  | some e =>
    if e.isNull then .result ((Json.lookup "result" fields).getD .null) else .error (.ofJson e)
  | none => .result ((Json.lookup "result" fields).getD .null)

/-- What a frame from a worker says, if it is a response or a log message. -/
def Incoming.ofFrame? : Json → Option Incoming
  | .obj fields =>
    match (Json.lookup "id" fields).bind Json.word64? with
    | some id => some (.response id (.ofFields fields))
    | none =>
      if (Json.lookup "method" fields).bind Json.text? = some "log" then
        match (Json.lookup "params" fields).map LogMessage.schema.read with
        | some (.ok m) => some (.log m)
        | _ => none
      else none
  | _ => none

/-- The arguments that a worker is started with: the Plug'n'Play scripts are loaded before the
worker's own. -/
def launchArguments (pnp : Option PnpConfiguration) (script : Path) : List String :=
  let loading := match pnp with
    | none => []
    | some p => ["--require", p.registerPath.text] ++ match p.loaderPath with
      | none => []
      | some l => ["--experimental-loader", l.text]
  loading ++ [script.text]

end LintPool
