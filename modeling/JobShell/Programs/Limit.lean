import JobShell.Programs.Options
import JobShell.Text.Numeral

/-!
# Limits of processes

A program that limits how many files a process may have open.
-/

namespace JobShell.Programs.Limit

def known : List KnownOption := [⟨'p', "pid", true⟩, ⟨'n', "nofile", true⟩]

def refuse (program text : String) : Activity Int := do
  complain program text
  pure 1

/-- What happens once it is known whose files are limited, and how. -/
def limit (program : String) (pid number : Nat) : Activity Int := do
  match ← Activity.limitDescriptors pid number with
  | .ok () => pure 0
  | .error errno =>
    refuse program ("failed to set the NOFILE resource limit: " ++ errno.text)

def main (program : String) (arguments : List String) : Activity Int :=
  withOptions program known 1 arguments fun given => do
    let named := (given.value? 'p').getD ""
    match Text.parseWord64? named,
      (given.value? 'n').bind Text.parseWord64? with
    | none, _ => refuse program ("invalid PID argument: '" ++ named ++ "'")
    | _, none => refuse program "failed to parse NOFILE limit"
    | some pid, some number => limit program pid number

end JobShell.Programs.Limit
