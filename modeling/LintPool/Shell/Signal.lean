import LintPool.Shell.Engine
import LintPool.Shell.Tool.Basic

set_option autoImplicit false

/-!
# Signals and jobs

## Main definitions

* `LintPool.Shell.signal?` — the signal of a name or number.
* `LintPool.Shell.trap` — says what signals do.
* `LintPool.Shell.kill` — sends signals, which only the shell itself and its jobs feel.
* `LintPool.Shell.wait` — waits for jobs.
-/

namespace LintPool.Shell

/-- The signals by name. -/
def signals : List (String × Nat) :=
  [("HUP", 1), ("INT", 2), ("QUIT", 3), ("ILL", 4), ("TRAP", 5), ("ABRT", 6), ("BUS", 7),
    ("FPE", 8), ("KILL", 9), ("USR1", 10), ("SEGV", 11), ("USR2", 12), ("PIPE", 13),
    ("ALRM", 14), ("TERM", 15), ("CHLD", 17), ("CONT", 18), ("STOP", 19), ("TSTP", 20),
    ("TTIN", 21), ("TTOU", 22), ("URG", 23), ("XCPU", 24), ("XFSZ", 25), ("VTALRM", 26),
    ("PROF", 27), ("WINCH", 28), ("IO", 29), ("PWR", 30), ("SYS", 31)]

/-- The greatest number of a signal. -/
def lastSignal : Nat := 64

/-- The signal of a number, or of a name in any case; `EXIT` stands for the end of the shell. -/
def signal? (cs : Letters) : Option Nat :=
  match Tool.number? cs with
  | some n => if n ≤ lastSignal then some n else none
  | none =>
    let name := String.ofList (cs.map Char.toUpper)
    if name = "EXIT" then some endOfShell else (signals.find? (·.1 = name)).map (·.2)

/-- Whether a signal does not end a program. -/
def harmless (n : Nat) : Bool := [0, 17, 18, 19, 20, 21, 22, 23, 28].contains n

/-- What a shell writes when a signal has ended a program. -/
def signalText? (signal : Nat) : Option String :=
  match signal with
  | 1 => some "Hangup"
  | 3 => some "Quit"
  | 4 => some "Illegal instruction"
  | 5 => some "Trace/breakpoint trap"
  | 6 => some "Aborted"
  | 7 => some "Bus error"
  | 8 => some "Floating point exception"
  | 9 => some "Killed"
  | 10 => some "User defined signal 1"
  | 11 => some "Segmentation fault"
  | 12 => some "User defined signal 2"
  | 14 => some "Alarm clock"
  | 15 => some "Terminated"
  | _ => none

/-- Writes that a signal has ended a program. -/
def reportSignal (signal : Nat) : Act Unit := do
  if let some text := signalText? signal then
    let _ ← say 2 (text.toList ++ ['\n'])

/-! ## Traps -/

/-- A text in single quotes, as a script may contain it. -/
def inQuotes (cs : Letters) : Letters :=
  '\'' :: cs.flatMap (fun c => if c = '\'' then "'\"'\"'".toList else [c]) ++ ['\'']

/-- The name of a signal in a list of traps. -/
def trapName (n : Nat) : String :=
  if n = endOfShell then "EXIT" else ((signals.find? (·.2 = n)).map (·.1)).getD (toString n)

/-- Writes what signals do. -/
def showTraps : Act Nat := do
  for (n, script) in (← state).traps.mergeSort fun a b => a.1 ≤ b.1 do
    let _ ← say 1 ("trap -- ".toList ++ inQuotes script ++ s!" {trapName n}\n".toList)
  return 0

/-- Gives signals a script; an empty one lets them do nothing, and none what they usually do. -/
def setTraps (script : Option Letters) : List Letters → Act Nat
  | [] => return 0
  | name :: rest => do
    match signal? name with
    | none =>
      let _ ← say 2 ("trap: ".toList ++ name ++ ": bad trap\n".toList)
      return 1
    | some n =>
      update fun s =>
        { s with traps := s.traps.filter (·.1 ≠ n) ++ script.toList.map fun script => (n, script) }
      setTraps script rest

/-- Says what signals do. -/
def trap (args : List Letters) : Act Nat := do
  match args with
  | [] => showTraps
  | first :: rest =>
    if first = ['-', '-'] then set rest
    else if first.head? = some '-' && first.length > 1 then
      giveUp ("Illegal option ".toList ++ first.take 2)
    else set args
where
  /-- Goes on with the arguments after the options. -/
  set : List Letters → Act Nat
    | [] => showTraps
    | first :: rest =>
      if rest.isEmpty || (Tool.number? first).isSome then setTraps none (first :: rest)
      else setTraps (if first = ['-'] then none else some first) rest

/-! ## Sending -/

/-- The number by which a shell knows itself. -/
def ownNumber : Nat := 100

/-- Sends a signal to a job, which ends if it has not run yet. -/
def killJob (signal number : Nat) : Act Unit := update fun s =>
  { s with jobs := s.jobs.map fun j =>
      if j.number = number && j.ending.isNone && !harmless signal then
        { j with ending := some (.killed signal) }
      else j }

/-- Sends a signal to each of some targets. -/
def sendTo (e : Engine) (signal : Nat) : List Letters → Act Nat
  | [] => return 0
  | target :: rest => do
    let code ← one target
    return max code (← sendTo e signal rest)
where
  /-- Sends the signal to one target. -/
  one (target : Letters) : Act Nat := do
    let (negative, digits) := match target with
      | '-' :: ds => (true, ds)
      | ds => (false, ds)
    match Tool.number? digits with
    | none => giveUp ("Illegal number: ".toList ++ digits)
    | some n =>
      if !negative && (n = ownNumber || n = 0) then
        if harmless signal then return 0 else signalled e signal
      else if !negative && (← state).jobs.any (·.number = n) then
        killJob signal n
        return 0
      else
        complain "No such process\n".toList
        return 1

/-- Complains about the way in which a signal was to be sent. -/
def kill.misused {α : Type} : Act α :=
  giveUp ("Usage: kill [-s sigspec | -signum | -sigspec] [pid | job]... or\n"
    ++ "kill -l [exitstatus]").toList

/-- Writes the names of signals, or the name of one that a number or a code stands for. -/
def kill.list (args : List Letters) : Act Nat := do
  match args with
  | [] =>
    let _ ← say 1 "0\n".toList
    for (name, _) in signals do
      let _ ← say 1 (name.toList ++ ['\n'])
    return 0
  | a :: _ =>
    let wrong := giveUp ("invalid signal number or exit status: ".toList ++ a)
    match Tool.number? a with
    | none => giveUp ("Illegal number: ".toList ++ a)
    | some n =>
      let n := if 128 < n then n - 128 else n
      match signals.find? (·.2 = n) with
      | some (name, _) => say 1 (name.toList ++ ['\n'])
      | none => wrong

/-- Sends a signal. -/
def kill (e : Engine) (args : List Letters) : Act Nat := do
  match args with
  | ['-', 'l'] :: rest => kill.list rest
  | ['-', 's'] :: name :: targets =>
    match signal? name with
    | some n => send n targets
    | none => giveUp ("invalid signal number or name: ".toList ++ name)
  | ['-', '-'] :: targets => send 15 targets
  | ('-' :: c :: cs) :: targets =>
    match signal? (c :: cs) with
    | some n => send n targets
    | none => if c = 's' then kill.misused else giveUp ("Illegal option -".toList ++ [c])
  | targets => send 15 targets
where
  /-- Sends a signal to targets, of which there must be some. -/
  send (signal : Nat) (targets : List Letters) : Act Nat :=
    if targets.isEmpty then kill.misused else sendTo e signal targets

/-! ## Waiting -/

/-- Waits for a job; its code. -/
def waitFor (j : Job) : Act Nat := do
  let ending ← runJob j
  if let .killed signal := ending then reportSignal signal
  return codeOf ending

/-- Waits for a job, or for all. -/
def wait (args : List Letters) : Act Nat := do
  match args with
  | [] =>
    runJobs (← state).jobs
    return 0
  | args =>
    let mut code := 0
    for a in args do
      match Tool.number? a with
      | none => giveUp ("Illegal number: ".toList ++ a)
      | some n =>
        match (← state).jobs.find? (·.number = n) with
        | some j => code ← waitFor j
        | none => code := 127
    return code

end LintPool.Shell
