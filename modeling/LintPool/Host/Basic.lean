import LintPool.Config.Settings
import LintPool.Host.Child
import LintPool.Registry.Run
import LintPool.Session.Step

set_option autoImplicit false

/-!
# Workers and their programs

A host has files, a clock and workers, each a session and the program at its other end. Whatever
can happen does happen until everything waits; then time goes by.

## Main definitions

* `LintPool.Worker` — a session and the program at its other end.
* `LintPool.Host` — the workers, the files and the clock.
* `LintPool.Tempo` — how time goes by when everything waits.
* `LintPool.Host.create` — starts a worker.
* `LintPool.Host.call` — has a worker do something.
* `LintPool.Host.world` — a host as the world of a registry.
-/

namespace LintPool

/-- A session and the program at its other end. -/
structure Worker where
  /-- The session. -/
  session : Session
  /-- The program. -/
  child : Child

namespace Worker

/-- Bytes go from the writer into the program's input pipe, or the input is closed, or it breaks. -/
def passInput (w : Worker) : Option Worker :=
  match w.session.writer with
  | .writing (b :: rest) =>
    if w.child.ending.isSome then some { w with session := w.session.breakInput }
    else
      let n := min w.child.room (b :: rest).length
      if n = 0 then none
      else some
        { session := w.session.accept n
          child := { w.child with input := w.child.input ++ (b :: rest).take n } }
  | .over =>
    if w.child.inputOpen then some { w with child := { w.child with inputOpen := false } } else none
  | _ => none

/-- Whether the reader can take more output. -/
def takesOutput (w : Worker) : Bool :=
  match w.session.reader with
  | .reading _ _ none => true
  | _ => false

/-- Bytes go from the program's output to the reader, or the output ends. -/
def passOutput (w : Worker) : Option Worker :=
  if !w.takesOutput then none
  else if !w.child.output.isEmpty then
    some { session := w.session.receive w.child.output, child := { w.child with output := [] } }
  else if !w.child.outputOpen then some { w with session := w.session.closeOutput }
  else none

/-- The session hears of the program's end, or the program is killed. -/
def passEnding (w : Worker) (now : Instant) : Option Worker :=
  match w.child.ending, w.session.ending with
  | some e, none => some { w with session := w.session.step now (.ended e) }
  | none, _ => if w.session.killsProgram then some { w with child := w.child.kill } else none
  | _, _ => none

/-- The most things that a program does before somebody else has a turn. -/
def turnLength : Nat := 10000

/-- The next thing that happens to a worker, if something can happen. -/
def turn (w : Worker) (now : Instant) (files : FileTree) : Option (Worker × FileTree) :=
  match w.session.stepAny now with
  | some session => some ({ w with session }, files)
  | none =>
    match (w.passInput.or w.passOutput).or (w.passEnding now) with
    | some w => some (w, files)
    | none => (w.child.run turnLength files).map fun (child, files) => ({ w with child }, files)

/-- The program is killed, and nobody talks to it any more. -/
def drop (w : Worker) : Worker := { w with child := w.child.kill }

end Worker

/-- How time goes by when everything waits. -/
inductive Tempo where
  /-- The clock stands still, and the program that sleeps least wakes up. -/
  | still
  /-- The clock moves by a span, again and again. -/
  | leaping (length : Span)
  /-- The clock moves on to what comes next: a program wakes up, or a time is over. -/
  | steady
  deriving Repr, DecidableEq

/-- The workers, the files and the clock. -/
structure Host where
  /-- The files. -/
  files : FileTree
  /-- The clock. -/
  clock : Instant
  /-- The variables that programs get. -/
  environment : Environment
  /-- How workers are started. -/
  settings : Settings
  /-- The workers by number; one that is gone has none. -/
  workers : List (Option Worker)
  /-- How time goes by when everything waits. -/
  tempo : Tempo

namespace Host

/-- A host without workers, on which the clock stands still. -/
def start (files : FileTree) (clock : Instant) (environment : Environment) (settings : Settings) :
    Host :=
  ⟨files, clock, environment, settings, [], .still⟩

/-- The worker of a number. -/
def worker? (h : Host) (id : WorkerId) : Option Worker := (h.workers[id]?).join

/-- The host with another worker of a number. -/
def setWorker (h : Host) (id : WorkerId) (w : Option Worker) : Host :=
  { h with workers := h.workers.set id w }

/-! ## The passing of time -/

/-- The next thing that happens to one of some workers, if something can happen. -/
def turnOf (h : Host) : List WorkerId → Option Host
  | [] => none
  | id :: rest =>
    match (h.worker? id).bind fun w => w.turn h.clock h.files with
    | some (w, files) => some { h.setWorker id (some w) with files }
    | none => turnOf h rest

/-- The next thing that happens, if something can happen. -/
def turn (h : Host) : Option Host := h.turnOf (List.range h.workers.length)

/-- Lets happen what can, at most `fuel` things. -/
def settle : (fuel : Nat) → Host → Host
  | 0, h => h
  | fuel + 1, h =>
    match h.turn with
    | some h => settle fuel h
    | none => h

/-- More things than happen without time going by. -/
def plenty : Nat := 1000000

/-- The time for which every program sleeps on. -/
def sleepers (h : Host) : List Nat := h.workers.filterMap fun w => w.bind fun w => w.child.asleep

/-- Time goes by for the programs. -/
def elapse (h : Host) (nanos : Nat) : Host :=
  { h with workers := h.workers.map fun w =>
      w.map fun w => { w with child := w.child.elapse nanos } }

/-- The time that goes by for the programs when the clock is moved because everything waits. -/
def tick : Nat := 100000000

/-- The time until each time that somebody waits for is over. -/
def untilDue (h : Host) : List Nat :=
  (h.workers.flatMap fun w => (w.map fun w => w.session.deadlines).getD []).filterMap fun d =>
    if h.clock.nanos < d.nanos then some (d.nanos - h.clock.nanos) else none

/-- The clock moves, and time goes by for the programs. -/
def pass (h : Host) (clock programs : Nat) : Host :=
  { h with clock := ⟨h.clock.nanos + clock⟩ }.elapse programs

/-- Lets time go by when everything waits, if that can make a difference. -/
def wait (h : Host) : Option Host :=
  match h.tempo with
  | .still => h.sleepers.min?.map (h.pass 0)
  | .leaping length => some (h.pass length.nanos tick)
  | .steady => (h.sleepers ++ h.untilDue).min?.map fun n => h.pass n n

/-- Lets happen what can and time go by, until a condition holds or nothing can make a difference,
in at most `fuel` rounds. -/
def waitFor (done : Host → Bool) : (fuel : Nat) → Host → Host
  | 0, h => h
  | fuel + 1, h =>
    let h := settle plenty h
    if done h then h
    else match h.wait with
      | some h => waitFor done fuel h
      | none => h

/-- More rounds than anybody waits. -/
def patience : Nat := 100000

/-- Moves the clock. -/
def advance (h : Host) (s : Span) : Host :=
  settle plenty { h with clock := ⟨h.clock.nanos + s.nanos⟩ }

/-! ## Workers -/

/-- The wording for a worker that cannot be started without a script. -/
def noScript : String := "no worker_script configured in ~/.stylist/config.toml"

/-- The absolute path of a program that is called by a path, as seen from a folder. -/
def absoluteProgram (folder : Address) (p : Path) : Path :=
  p.seenFrom ⟨FileTree.addressText folder⟩

/-- The path of the program that runs worker scripts. -/
def findCommand (h : Host) (command : String) : Option String :=
  if command.toList.contains '/' then
    let p := (absoluteProgram h.files.current ⟨command⟩).text
    if (executableAt h.files p).isOk then some p else none
  else match findProgram h.files h.environment.searchPath command with
    | .ok (p, _) => some p
    | .error _ => none

/-- Starts the program of a worker, or says why that fails. -/
def launch (h : Host) (c : WorkerContext) : Except String (Routine Ending) :=
  match h.settings.workerScript with
  | none => .error noScript
  | some script =>
    match h.findCommand h.settings.workerCommand with
    | none => .error s!"{h.settings.workerCommand} not found in PATH: cannot find binary path"
    | some program =>
      if (h.files.isFile script).toOption = some true then
        let l : Launch :=
          ⟨program, launchArguments c.pnp script, [("STYLIST_WORKER_ROOT", c.workerRoot.text)],
            some c.workerRoot⟩
        match l.start h.environment h.files with
        | .ok routine => .ok routine
        | .error e => .error s!"spawning worker for {c.workerRoot.text}: {e.message}"
      else .error s!"worker script {script.text} does not exist"

/-- Starts a worker. -/
def create (c : WorkerContext) (h : Host) : Except WorkerError WorkerId × Host :=
  match h.launch c with
  | .error message => (.error (.crashed c.workerRoot message), h)
  | .ok routine =>
    let session := Session.start c.workerRoot (.ofSeconds h.settings.requestTimeoutSecs.toNat)
      (.ofSeconds h.settings.workerIdleTimeoutSecs.toNat) h.clock
    (.ok h.workers.length, { h with workers := h.workers ++ [some ⟨session, .start routine⟩] })

/-- Whether a worker takes no more calls. -/
def down (h : Host) (id : WorkerId) : Bool :=
  match h.worker? id with
  | some w => w.session.isDown h.clock
  | none => true

/-- Something happens in the session with a worker. -/
def happen (h : Host) (id : WorkerId) (e : Session.Event) : Host :=
  match h.worker? id with
  | some w => h.setWorker id (some { w with session := w.session.step h.clock e })
  | none => h

/-- A call to a worker begins: the number of its request, unless the session refuses it. -/
def beginCall (id : WorkerId) (task : Task) (params : Json) (h : Host) :
    Except WorkerError Nat × Host :=
  match h.worker? id with
  | none => (.error (.crashed ⟨""⟩ "worker is no longer running"), h)
  | some w =>
    let (number, session) := w.session.begin task params h.clock
    (number, h.setWorker id (some { w with session }))

/-- The result of a request, if it is over. -/
def result? (h : Host) (id : WorkerId) (number : Nat) : Option CallResult :=
  (h.worker? id).bind fun w => w.session.result? number

/-- The result of a call that has begun, and the host without its request. -/
def fetch (id : WorkerId) (number : Except WorkerError Nat) (h : Host) : CallResult × Host :=
  match number with
  | .error e => (.error e, h)
  | .ok n =>
    match h.worker? id with
    | none => (.error (.crashed ⟨""⟩ "worker is no longer running"), h)
    | some w =>
      let result := (w.session.result? n).getD (.error (w.session.crashed w.session.exitMessage))
      (result, h.setWorker id (some { w with session := w.session.fetch n }))

/-- Whether a call that has begun is over. -/
def isOver (id : WorkerId) (number : Except WorkerError Nat) (h : Host) : Bool :=
  match number with
  | .error _ => true
  | .ok n => (h.result? id n).isSome

/-- Has a worker do something. -/
def call (id : WorkerId) (task : Task) (params : Json) (h : Host) : CallResult × Host :=
  let (number, h) := h.beginCall id task params
  fetch id number (waitFor (isOver id number) patience h)

/-- Whether the stopping of a worker is over. -/
def isStopped (id : WorkerId) (h : Host) : Bool :=
  match h.worker? id with
  | some w => w.session.isStopped
  | none => true

/-- Has a worker stopped; if that has been ordered before, there is nothing to wait for. -/
def stop (id : WorkerId) (h : Host) : Host :=
  match h.worker? id with
  | none => h
  | some w =>
    if w.session.disposed then h
    else waitFor (isStopped id) patience (h.happen id .dispose)

/-- Has a worker stopped and lets go of it. -/
def dispose (id : WorkerId) (h : Host) : Host := (h.stop id).setWorker id none

/-- A host as the world of a registry. -/
def world : World Host where
  create := create
  dispose := dispose
  down := down
  now := fun h => h.clock

end Host

end LintPool
