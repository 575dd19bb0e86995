import JobShell.Script.Builtin.Variables

/-!
# Loops

A loop is run with given ways to run its parts.  These may break off the loop,
or several of them.
-/

namespace JobShell.Script.Execution

open Run

/-- More turns than any loop takes. -/
def turnLimit : Nat := Nat.pow 2 60

/-- How a turn of a loop has ended: with a status, and perhaps as the last
one. -/
structure Turn where
  status : Int
  goesOn : Bool
  deriving DecidableEq, Repr

/-- Runs a part of a loop. -/
def turn (part : Run Int) : Run Turn := do
  match ← attempt part with
  | .ok status => pure { status, goesOn := true }
  | .error (.breakLoop levels) =>
    if levels ≤ 1 then pure { status := 0, goesOn := false }
    else throw (.breakLoop (levels - 1))
  | .error (.continueLoop levels) =>
    if levels ≤ 1 then pure { status := 0, goesOn := true }
    else throw (.continueLoop (levels - 1))
  | .error escape => throw escape

/-- Runs an action one loop further in. -/
def inLoop (action : Run Int) : Run Int := do
  modify fun state => { state with loops := state.loops + 1 }
  let outcome ← attempt action
  modify fun state => { state with loops := state.loops - 1 }
  ofOutcome outcome

/-- Goes round as long as the condition has the outcome that is wanted. -/
def goRound (wanted : Bool) (condition body : Run Int)
    (status : Int) : (turns : Nat) → Run Int
  | 0 => pure status
  | turns + 1 => do
    let checked ← turn condition
    if !checked.goesOn || (checked.status == 0) != wanted then pure status
    else
      let done ← turn body
      if done.goesOn then goRound wanted condition body done.status turns
      else pure done.status

/-- Goes round once for each value of a variable. -/
def goThrough (name : String) (body : Run Int)
    (status : Int) : List String → Run Int
  | [] => pure status
  | value :: rest => do
    Builtin.assign name value
    let done ← turn body
    if done.goesOn then goThrough name body done.status rest
    else pure done.status

/-- Breaks off loops around a command. -/
def leaveLoops (escape : Nat → Escape) (arguments : List String) : Run Int := do
  let wanted ← match arguments with
    | [] => pure 1
    | text :: _ => Builtin.number text
  if wanted = 0 then fail ("Illegal number: " ++ arguments.headD "")
  else
    let levels := min wanted (← get).loops
    if levels = 0 then pure 0 else throw (escape levels)

end JobShell.Script.Execution
