import JobShell.Job.Basic
import JobShell.Script.Syntax

/-!
# The state of a script

What an interpreter of scripts remembers from one statement to the next.
-/

namespace JobShell.Script

/-- A variable without a value is one that has only been marked. -/
structure Variable where
  value : Option String
  exported : Bool
  readOnly : Bool
  deriving DecidableEq, Repr

/-- What an action waits for. -/
inductive Trap where
  | exit
  | signal (signal : Signal)
  deriving DecidableEq, Repr

/-- `name` and `arguments` are the parameters, `shell` is the number of the
process that the script began in, `directory` is the working directory as the
script has come to it, `line` is that of the statement, and `command` is the
builtin command that is running.  `saved` counts the descriptors that are put
aside, `loops` the loops around the statement.  `hidden` are the variables that
the locals of a function hide, `noted` are signals whose actions have not been
run yet, and `trapStatus` is the status in front of the action of a trap.
`unwritten` says that output of a builtin command has been lost. -/
structure State where
  name : String
  arguments : List String
  status : Int
  substitutionStatus : Int
  bindings : List (String × Variable)
  functions : List (String × Statement)
  traps : List (Trap × String)
  options : List Char
  shell : Pid
  lastBackground : Option Pid
  children : List Pid
  directory : String
  line : Nat
  command : Option String
  saved : Nat
  loops : Nat
  hidden : Option (List (String × Variable))
  noted : List Signal
  trapStatus : Option Int
  unwritten : Bool

/-- What a child of an interpreter does; `tested` says that somebody looks at
the status of the statement. -/
inductive Work where
  | statement (body : Statement) (tested : Bool)
  | text (script : String) (line : Nat)
  /-- Becomes the first one of some programs that can be launched. -/
  | program (paths : List String) (arguments : List String)
  deriving Inhabited

/-- How a child of an interpreter is set up: the open files in place of its
input and its output, and those that are not its own. -/
structure ChildSetup where
  input : Option Nat
  output : Option Nat
  unused : List Nat
  background : Bool
  deriving DecidableEq, Repr

namespace State

def get (state : State) (name : String) : Variable :=
  (state.bindings.lookup name).getD { value := none, exported := false,
                                      readOnly := false }

def value? (state : State) (name : String) : Option String :=
  (state.get name).value

/-- Changes a variable; a new one comes last. -/
def put (state : State) (name : String) (content : Variable) : State :=
  if (state.bindings.lookup name).isSome then
    { state with
      bindings := state.bindings.map fun entry =>
        if entry.1 = name then (name, content) else entry }
  else { state with bindings := state.bindings ++ [(name, content)] }

def unset (state : State) (name : String) : State :=
  { state with bindings := state.bindings.filter fun entry => entry.1 != name }

/-- Gives a variable a value; with `a` among the options it is exported too. -/
def assign (state : State) (name value : String) : State :=
  let old := state.get name
  state.put name
    { old with
      value := some value,
      exported := old.exported || state.options.contains 'a' }

/-- Gives a variable a value and exports it. -/
def assignExported (state : State) (name value : String) : State :=
  state.put name { state.get name with value := some value, exported := true }

/-- The variables that programs get. -/
def exported (state : State) : List (String × String) :=
  state.bindings.filterMap fun entry =>
    if entry.2.exported then entry.2.value.map fun value =>
      (entry.1, value) else none

def function? (state : State) (name : String) : Option Statement :=
  state.functions.lookup name

def setTrap (state : State) (trap : Trap) (action : Option String) : State :=
  let others := state.traps.filter fun entry => entry.1 != trap
  { state with traps := others ++ action.toList.map fun action =>
                 (trap, action) }

def trap? (state : State) (trap : Trap) : Option String :=
  state.traps.lookup trap

/-- The letters of all options, in the order in which they are shown. -/
def optionLetters : List Char := "ubaCEVvxsnmiIfe".toList

/-- The characters that separate fields. -/
def separators (state : State) : List Char :=
  ((state.value? "IFS").getD " \t\n").toList

end State

end JobShell.Script
