import LintPool.Session.Basic

set_option autoImplicit false

/-!
# The steps of the writer, the reader and the watch

## Main definitions

* `LintPool.Session.stepWriter`, `LintPool.Session.accept`, `LintPool.Session.breakInput` — writing.
* `LintPool.Session.stepReader`, `LintPool.Session.receive`, `LintPool.Session.closeOutput` —
  reading.
* `LintPool.Session.stepWatchdog` — the watch over idleness.
-/

namespace LintPool

/-- The names of the signals by number, from one. -/
def signalNames : List String :=
  ["SIGHUP", "SIGINT", "SIGQUIT", "SIGILL", "SIGTRAP", "SIGABRT", "SIGBUS", "SIGFPE", "SIGKILL",
    "SIGUSR1", "SIGSEGV", "SIGUSR2", "SIGPIPE", "SIGALRM", "SIGTERM", "SIGSTKFLT", "SIGCHLD",
    "SIGCONT", "SIGSTOP", "SIGTSTP", "SIGTTIN", "SIGTTOU", "SIGURG", "SIGXCPU", "SIGXFSZ",
    "SIGVTALRM", "SIGPROF", "SIGWINCH", "SIGIO", "SIGPWR", "SIGSYS"]

/-- How a program ended, in words. No program leaves a core dump behind, which would be said after
its signal. -/
def Ending.text : Ending → String
  | .exited code => s!"exit status: {code}"
  | .killed signal =>
    match signalNames[signal - 1]? with
    | some name => s!"signal: {signal} ({name})"
    | none => s!"signal: {signal}"

namespace Session

/-! ## Writing -/

/-- The writer is over: the worker's input is closed, and no order is heard any more. -/
def endWriter (s : Session) : Session := { s with writer := .over, queue := [] }

/-- The next step of the writer, if it can take one without the worker. -/
def stepWriter (s : Session) : Option Session :=
  match s.writer, s.queue with
  | .idle, .send frame :: rest => some { s with writer := .writing (frameOf frame), queue := rest }
  | .idle, .close :: _ => some s.endWriter
  | .writing [], _ => some { s with writer := .idle }
  | _, _ => none

/-- The worker's input takes so many bytes. -/
def accept (s : Session) (n : Nat) : Session :=
  match s.writer with
  | .writing rest => { s with writer := .writing (rest.drop n) }
  | _ => s

/-- The worker's input breaks, which the writer notes when it writes. -/
def breakInput (s : Session) : Session :=
  match s.writer with
  | .writing (_ :: _) => s.endWriter
  | _ => s

/-! ## Reading -/

/-- Hands a reply to the pending request of its number. -/
def answer (s : Session) (id : Nat) (reply : Reply) : Session :=
  if s.pending.contains id then
    let s := (s.strike id).mapRequest id fun r => { r with reply := some reply }
    { s with stopping := s.stopping.map fun t =>
        if t.id = some id then { t with answered := true } else t }
  else s

/-- Does what a frame asks for: only a reply asks for something. -/
def dispatch (s : Session) (frame : Json) : Session :=
  match Incoming.ofFrame? frame with
  | some (.response id reply) => s.answer id reply
  | some (.log _) => s
  | none => s

/-- The wording for output at a fault. -/
def faultReason (f : FrameFault) : String := s!"unreadable worker output: {f.detail}"

/-- The worker's output brings some bytes. -/
def receive (s : Session) (bytes : Bytes) : Session :=
  match s.reader with
  | .reading decoder inbox none =>
    let (frames, decoder) := decoder.feed bytes
    { s with reader := .reading decoder (inbox ++ frames) (decoder.fault?.map faultReason) }
  | _ => s

/-- The worker's output ends. -/
def closeOutput (s : Session) : Session :=
  match s.reader with
  | .reading decoder inbox none =>
    let (last, ending) := decoder.finish
    let reason := match ending with
      | .clean => "worker closed its output"
      | .faulty f => faultReason f
    { s with reader := .reading decoder (inbox ++ last.toList) (some reason) }
  | _ => s

/-- The reader takes charge of the program, if nobody is in charge; if the stopping has taken it
over, it has nothing to wait for. -/
def stepReaderLocking (s : Session) (reason : String) (now : Instant) : Option Session :=
  match s.keeper with
  | some _ => none
  | none =>
    if s.taken then some { s with reader := .noting reason }
    else some { s with
      keeper := some .reader
      reader := .awaiting reason (deadlineAfter now shutdownTimeout) }

/-- The reader waits for the program to end; how it ended goes into the reason. -/
def stepAwaiting (s : Session) (reason : String) (deadline now : Instant) : Option Session :=
  match s.ending with
  | some e => some { s with keeper := none, reader := .noting s!"{reason} ({e.text})" }
  | none =>
    if deadline.nanos ≤ now.nanos then some { s with keeper := none, reader := .noting reason }
    else none

/-- The next step of the reader, if it can take one without the worker. -/
def stepReader (s : Session) (now : Instant) : Option Session :=
  match s.reader with
  | .reading decoder (frame :: inbox) reason =>
    some ({ s with reader := .reading decoder inbox reason }.dispatch frame)
  | .reading _ [] (some reason) => some { s with reader := .locking reason }
  | .reading _ [] none => none
  | .locking reason => s.stepReaderLocking reason now
  | .awaiting reason deadline => s.stepAwaiting reason deadline now
  | .noting reason => some { s with exitReason := some reason, reader := .exiting }
  | .exiting => some { s with exited := true, reader := .clearing }
  | .clearing => some { s with pending := [], reader := .over }
  | .over => none

/-! ## Watching -/

/-- The next step of the watch, if it is time to look. -/
def stepWatchdog (s : Session) (now : Instant) : Option Session :=
  match s.watchdog with
  | .over => none
  | .sleeping wake =>
    if wake.nanos ≤ now.nanos then
      if s.disposed || s.exited then some { s with watchdog := .over }
      else if s.isIdle now then some ({ s with watchdog := .over }.dispose now)
      else
        let wake := deadlineAfter now (watchInterval s.idleTimeout)
        some { s with watchdog := .sleeping wake }
    else none

end Session

end LintPool
