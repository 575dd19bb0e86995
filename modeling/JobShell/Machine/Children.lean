import JobShell.Execution.Sequence
import JobShell.Script.Interpreter

/-!
# Children

What a process does that has just been made.
-/

namespace JobShell.Task

def body : Task → Activity Int
  | stage session command launch wiring group background =>
    Stage.body session command launch wiring group background
  | subshell session sequence => subshellBody session sequence
  | script state work setup => Script.Interpreter.childBody state work setup

end JobShell.Task
