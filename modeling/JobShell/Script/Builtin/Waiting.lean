import JobShell.Script.Builtin.Basic

/-!
# Waiting

The command that waits for children in the background.
-/

namespace JobShell.Script.Builtin

open Run

/-- How waiting for a child has ended: with its status, or because of a
signal. -/
structure Awaited where
  status : Int
  interrupted : Bool
  deriving DecidableEq, Repr

/-- Waits for a child in the background; a signal that is noted breaks this off.
With `tells`, it is told when a signal has ended the child. -/
def awaitOne (tells : Bool) (pid : Pid) : Run Awaited := do
  if !(← get).children.contains pid then
    pure { status := 127, interrupted := false }
  else
    match ← Activity.awaitChild pid true with
    | .ok outcome =>
      modify fun state =>
        { state with children := state.children.filter (· != pid) }
      if tells then tell outcome
      pure { status := statusOf outcome, interrupted := false }
    | .error errno =>
      if errno = .interrupted then
        let noted ← Activity.takeNoted
        modify fun state => { state with noted := state.noted ++ noted }
        let number := (noted.map Signal.number).min?.getD 0
        pure { status := 128 + (number : Int), interrupted := true }
      else pure { status := 127, interrupted := false }

def awaitAll : List Pid → Run Int
  | [] => pure 0
  | pid :: rest => do
    let awaited ← awaitOne false pid
    if awaited.interrupted then pure awaited.status else awaitAll rest

def awaitNamed (status : Int) : List String → Run Int
  | [] => pure status
  | text :: rest => do
    let awaited ← awaitOne true (← processNumber text)
    if awaited.interrupted then pure awaited.status
    else awaitNamed awaited.status rest

def wait (arguments : List String) : Run Int := do
  let (_, operands) ← takeFlags [] [] arguments
  if operands.isEmpty then awaitAll (← get).children else awaitNamed 0 operands

end JobShell.Script.Builtin
