import JobShell.Machine.Standard
import JobShell.CommandLine

/-!
# The shell as a program

The shell takes its input and works on a standard machine.
-/

open JobShell

def main : IO UInt32 := do
  let input ← (← IO.getStdin).readToEnd
  match CommandLine.run World.standard input with
  | none => pure 1
  | some result =>
    (← IO.getStdout).write result.output
    (← IO.getStderr).write result.errors
    pure result.status.toNat.toUInt32
