import JobShell.Failure

/-!
# Builtin commands

The commands that the shell itself knows, and how many arguments each of them
takes.  Numbers of arguments count the name of the command.
-/

namespace JobShell

inductive Builtin where
  | bg
  | cd
  | echo
  | exit
  | fg
  | history
  | jobs
  | kill
  | pwd
  | quit
  | sleep
  deriving DecidableEq, Repr

namespace Builtin

def name : Builtin → String
  | bg => "bg"
  | cd => "cd"
  | echo => "echo"
  | exit => "exit"
  | fg => "fg"
  | history => "history"
  | jobs => "jobs"
  | kill => "kill"
  | pwd => "pwd"
  | quit => "quit"
  | sleep => "sleep"

/-- The builtins in the order of their names. -/
def all : List Builtin :=
  [bg, cd, echo, exit, fg, history, jobs, kill, pwd, quit, sleep]

def ofName? (name : String) : Option Builtin :=
  all.find? fun builtin => builtin.name == name

theorem ofName?_name (builtin : Builtin) :
    ofName? builtin.name = some builtin := by
  cases builtin <;> decide

/-- The least number of arguments, and the greatest one if there is one. -/
def bounds : Builtin → Nat × Option Nat
  | pwd | history | quit | exit | jobs => (1, some 1)
  | cd => (1, some 2)
  | bg | fg | kill | sleep => (2, some 2)
  | echo => (1, none)

/-- The bound that a number of arguments violates. -/
def violated? (builtin : Builtin) (given : Nat) : Option ArityBound :=
  let (least, greatest?) := builtin.bounds
  if given < least then some (.min least)
  else greatest?.bind fun greatest =>
    if given > greatest then some (.max greatest) else none

end Builtin

def builtinNames : List String := Builtin.all.map Builtin.name

def isBuiltin (name : String) : Bool := (Builtin.ofName? name).isSome

theorem isBuiltin_iff (name : String) :
    isBuiltin name = true ↔ name ∈ builtinNames := by
  simp [isBuiltin, builtinNames, Builtin.ofName?]

end JobShell
