import JobShell.Programs.Cat
import JobShell.Programs.Count
import JobShell.Programs.Limit
import JobShell.Programs.Sleep
import JobShell.Programs.Sort
import JobShell.Script.Interpreter

/-!
# The programs of the machine
-/

namespace JobShell.Program

/-- What a program does with its arguments, the first of which is the name that
it is called by. -/
def main (program : Program) (arguments : List String) : Activity Int :=
  let called := arguments.headD program.name
  let rest := arguments.drop 1
  match program with
  | true_ => pure 0
  | false_ => pure 1
  | cat => Programs.Cat.main called rest
  | wc => Programs.Count.main called rest
  | sort => Programs.Sort.main called rest
  | sleep => Programs.Sleep.main called rest
  | prlimit => Programs.Limit.main called rest
  | sh => Script.Interpreter.main arguments

end JobShell.Program
