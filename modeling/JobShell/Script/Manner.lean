import JobShell.Script.Running

/-!
# Texts and traps

The text of a script is run one complete command after the other.  Actions of
traps are texts too; they are run between statements.
-/

namespace JobShell.Script

/-- How a statement is run: `last` says that nothing comes after it in its
process, `tested` that somebody looks at its status. -/
structure Manner where
  last : Bool
  tested : Bool
  deriving DecidableEq, Repr

namespace Manner

def usual : Manner := { last := false, tested := false }

def asTest : Manner := { last := false, tested := true }

/-- The manner of a statement that is not the last one. -/
def notLast (manner : Manner) : Manner := { manner with last := false }

end Manner

/-- A way to run statements. -/
abbrev Runner := Manner → Statement → Run Int

namespace Execution

open Run

/-- Runs the complete commands of a text one after the other.  With `last`,
nothing comes after the text. -/
def runReader (run : Runner) (manner : Manner)
    (status : Int) : (fuel : Nat) → Reader → Run Int
  | 0, _ => pure status
  | fuel + 1, reader => do
    match reader.complete? with
    | .error fault =>
      modify fun state => { state with line := fault.line }
      fail fault.message
    | .ok none => pure status
    | .ok (some complete) =>
      let status ←
        run { manner with last := manner.last && complete.atEnd }
          complete.statement
      runReader run manner status fuel complete.rest

def runText (run : Runner) (manner : Manner) (text : String) : Run Int :=
  runReader run manner 0 (text.length + 1) (.ofText text)

/-- Runs the actions for some signals, in the order of their numbers. -/
def runActions (run : Runner) (status : Int) : List Signal → Run Unit
  | [] => pure ()
  | signal :: rest => do
    match (← get).trap? (.signal signal) with
    | some text => discard (runText run .usual text)
    | none => pure ()
    setStatus status
    runActions run status rest

/-- Runs the actions for the signals that have been noted.  They leave the
status as it is. -/
def runTraps (run : Runner) : Run Unit := do
  let fresh ← Activity.takeNoted
  let state ← get
  let waiting := Signal.all.filter fun signal =>
    (state.noted ++ fresh).contains signal
  if waiting.isEmpty then pure ()
  else
    set { state with
      noted := [], trapStatus := some (state.trapStatus.getD state.status) }
    runActions run (state.trapStatus.getD state.status) waiting
    modify fun now => { now with trapStatus := state.trapStatus }

/-- Whether the process may become another program in the place of its last
statement: nothing waits for a signal or for the end. -/
def mayBecome (manner : Manner) : Run Bool := do
  pure (manner.last && (← get).traps.all fun entry => entry.2.isEmpty)

end Execution

end JobShell.Script
