import JobShell.Text.Seconds
import JobShell.Programs.Options

/-!
# Sleeping

A program that waits for the sum of some intervals.
-/

namespace JobShell.Programs.Sleep

/-- How many seconds the unit of an interval has. -/
def unit? : Char → Option Nat
  | 's' => some 1
  | 'm' => some 60
  | 'h' => some 3600
  | 'd' => some 86400
  | _ => none

/-- An interval in nanoseconds: a number of seconds, or of the unit behind
it. -/
def interval? (text : String) : Option Nat :=
  match text.toList.getLast?.bind unit? with
  | some unit =>
    (Text.parseSeconds? (String.ofList text.toList.dropLast)).map
      fun time => unit * time
  | none => Text.parseSeconds? text

def refuse (program : String) (messages : List String) : Activity Int := do
  messages.forM (complain program)
  pointToHelp program
  pure 1

def main (program : String) (arguments : List String) : Activity Int :=
  withOptions program [] 1 arguments fun given => do
    let malformed :=
      given.operands.filter fun argument => (interval? argument).isNone
    if given.operands.isEmpty then refuse program ["missing operand"]
    else if malformed.isEmpty then
      let start ← Activity.clock
      Activity.sleepUntil
        (start + (given.operands.filterMap interval?).foldl (· + ·) 0)
      pure 0
    else
      refuse program (malformed.map fun argument =>
        "invalid time interval '" ++ argument ++ "'")

end JobShell.Programs.Sleep
