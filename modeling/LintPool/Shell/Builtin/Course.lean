import LintPool.Shell.Builtin.Text

set_option autoImplicit false

/-!
# Commands of the shell that change what runs next

## Main definitions

* `LintPool.Shell.Builtin.exit`, `returnWith`, `leave` — end the shell, a function or loops.
* `LintPool.Shell.Builtin.eval`, `source` — run scripts.
-/

namespace LintPool.Shell.Builtin

/-- The number that an argument gives. -/
def numberFrom (a : Letters) : Act Nat :=
  match Tool.number? a with
  | some n => return n
  | none => giveUp ("Illegal number: ".toList ++ a)

/-- The code that the first argument gives, or that of the last command. -/
def codeFrom : List Letters → Act Nat
  | [] => return (← state).status
  | a :: _ => numberFrom a

/-- Ends the shell. -/
def exit (args : List Letters) : Act Nat := do halt (.exit (← codeFrom args))

/-- Ends the function that runs. -/
def returnWith (args : List Letters) : Act Nat := do halt (.return (← codeFrom args))

/-- Leaves loops in some way, as many as the first argument says, if any loop runs. -/
def leave (how : Nat → Halt) (args : List Letters) : Act Nat := do
  let n ← match args with
    | [] => pure 1
    | a :: _ => numberFrom a
  if n = 0 then giveUp "Illegal number: 0".toList
  match (← state).loops with
  | 0 => return 0
  | loops => halt (how (min n loops))

/-- Runs its arguments as a script. -/
def eval (e : Engine) (args : List Letters) : Act Nat := e.script ([' '].intercalate args)

/-- Runs the script in a file; it may return. -/
def source (e : Engine) (args : List Letters) : Act Nat := do
  match args with
  | [] => return 0
  | a :: _ =>
    if a = "/dev/null".toList then return 0
    if !a.contains '/' then giveUp (a ++ ": not found".toList)
    match (← files).read (State.path a) with
    | .ok bytes =>
      tryCatch (speakingAs a (e.script (lettersOf bytes))) fun
        | .return code => return code
        | h => halt h
    | .error _ => giveUp ("cannot open ".toList ++ a ++ ": No such file".toList)

end LintPool.Shell.Builtin
