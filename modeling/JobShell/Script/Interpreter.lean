import JobShell.Script.Execution

/-!
# The interpreter of scripts

The interpreter as a program, and the children that it makes.
-/

namespace JobShell.Script.Interpreter

open Run Execution

/-- Puts an open file in the place of a standard one. -/
def wire (target : Descriptor) : Option Descriptor → Run Unit
  | none => pure ()
  | some source => if source = target then pure ()
      else Redirection.put source target

/-- The device that holds nothing. -/
def nowhere : String := "/dev/null"

/-- A process in the background does not listen to the keyboard. -/
def leaveKeyboard (hasInput : Bool) : Run Unit := do
  discard (Activity.setDisposition .int .ignore)
  discard (Activity.setDisposition .quit .ignore)
  if !hasInput then
    match ← Activity.openFile .input nowhere with
    | .ok opened => Redirection.put opened .standardInput
    | .error _ => pure ()

/-- A child keeps no actions for signals; what is ignored stays so. -/
def clearTraps (state : State) : State :=
  { state with traps := state.traps.filter fun entry => entry.2.isEmpty }

def resetNoted (traps : List (Trap × String)) : Activity Unit :=
  traps.forM fun entry =>
    match entry.1 with
    | .exit => pure ()
    | .signal signal =>
      if entry.2.isEmpty then pure ()
      else discard (Activity.setDisposition signal .standard)

def perform (work : Work) : Run Int :=
  match work with
  | .statement body tested => run { last := true, tested } body
  | .text script line =>
    runReader run { last := true, tested := false } 0 (script.length + 1)
      { Reader.ofText script with line }
  | .program paths arguments => Launching.become paths arguments

/-- What a child of an interpreter does. -/
def childBody (state : State) (work : Work)
    (setup : ChildSetup) : Activity Int := do
  resetNoted state.traps
  conclude
    (do
      if setup.background then leaveKeyboard setup.input.isSome
      Activity.closeAll setup.unused
      wire .standardInput setup.input
      wire .standardOutput setup.output
      perform work)
    { clearTraps state with
      children := [], saved := 0, noted := [], trapStatus := none }

/-- The variables that every script has. -/
def usualVariables : List (String × String) :=
  [("IFS", " \t\n"), ("OPTIND", "1"),
    ("PATH", "/usr/local/sbin:/usr/local/bin:/usr/sbin:/usr/bin:/sbin:/bin"),
    ("PS1", "# "), ("PS2", "> "), ("PS4", "+ ")]

/-- A variable that programs do not get. -/
def ownVariable (value : String) : Variable :=
  { value := some value, exported := false, readOnly := false }

/-- The variables that the environment cannot give. -/
def reserved : List String := ["IFS", "OPTIND", "PPID"]

/-- Variables from the environment, with the usual ones. -/
def variablesFrom (environment : Environment) : List (String × Variable) :=
  let named := environment.filter fun entry =>
    isName entry.1.toList && !reserved.contains entry.1
  let usual := usualVariables.filter fun entry => (named.lookup entry.1).isNone
  (named.map fun entry => (entry.1,
    { ownVariable entry.2 with exported := true })) ++
    usual.map fun entry => (entry.1, ownVariable entry.2)

/-- Whether a path leads to the working directory. -/
def leadsHere (world : World) (path : String) : Bool :=
  Path.isAbsolute path.toList && !world.place.isRemoved &&
    match world.lookup path with
    | .ok (.node location _) => location == world.place.location
    | _ => false

/-- Finds out the working directory: the environment may know it. -/
def findDirectory : Run Unit := do
  let world ← Activity.observe
  let known := ((← get).value? "PWD").filter (leadsHere world)
  let directory ← match known, world.currentDirectory with
    | some directory, _ => pure directory
    | none, .ok directory => pure directory
    | none, .error error => do
      warn ("getcwd() failed: " ++ wording noDirectory error)
      pure ""
  modify fun state => { state with directory }.assignExported "PWD" directory
where
  noDirectory : String := Errno.noEntry.text

def initialState (pid parent : Pid) (environment : Environment) : State :=
  { name := "sh", arguments := [], status := 0, substitutionStatus := 0
    bindings := (variablesFrom environment) ++
      [("PPID", ownVariable (toString parent))], functions := [], traps := [],
      options := []
    shell := pid, lastBackground := none, children := [],
    directory := "", line := 0
    command := none, saved := 0, loops := 0, hidden := none, noted := [],
    trapStatus := none
    unwritten := false }

/-- What the command line asks for. -/
structure Request where
  /-- The script is an argument. -/
  inline : Bool
  /-- The script is the input. -/
  fromInput : Bool
  operands : List String
  deriving DecidableEq, Repr

/-- Takes the options at the start of a command line. -/
def takeOptions (inline fromInput : Bool) : List String → Run Request
  | [] => pure { inline, fromInput, operands := [] }
  | argument :: rest =>
    match argument.toList with
    | ['-'] | ['-', '-'] => pure { inline, fromInput, operands := rest }
    | sign :: letters =>
      if sign = '-' || sign = '+' then
        if letters.contains 'o' then
          match rest with
          | [] => pure { inline, fromInput, operands := [] }
          | name :: rest => do
            match Builtin.longOptions.lookup name with
            | none => fail ("Illegal option -o " ++ name)
            | some letter =>
              setAll (sign == '-')
                (letter :: letters.filter fun c => c != 'o' && c != 'c')
              takeOptions (inline || letters.contains 'c')
                (fromInput || letters.contains 's') rest
        else do
          setAll (sign == '-') (letters.filter fun c => c != 'c')
          takeOptions (inline || letters.contains 'c')
            (fromInput || letters.contains 's') rest
      else pure { inline, fromInput, operands := argument :: rest }
    | [] => pure { inline, fromInput, operands := argument :: rest }
where
  setAll (on : Bool) (letters : List Char) : Run Unit := do
    match letters.find? fun c => !(State.optionLetters ++ ['l']).contains c with
    | some letter => fail ("Illegal option -" ++ String.singleton letter)
    | none => Builtin.setOptions on letters

/-- Runs a script that has been read. -/
def runScript (text : String) : Run Int := do
  modify fun state => { state with line := 1 }
  runText run .usual text

/-- Reads a script from a descriptor. -/
def readScript (descriptor : Descriptor) : Run String := do
  let bytes ← Activity.readAll descriptor
  pure ((bytes.toOption.bind String.fromUTF8?).getD "")

/-- Runs the script that the command line asks for. -/
def runRequest (request : Request) : Run Int := do
  match request.inline, request.fromInput, request.operands with
  | true, _, [] => fail "-c requires an argument"
  | true, _, script :: rest =>
    modify fun state =>
      { state with name := rest.headD state.name, arguments := rest.drop 1 }
    runScript script
  | false, true, operands =>
    modify fun state => { state with arguments := operands }
    runScript (← readScript .standardInput)
  | false, false, [] =>
    Builtin.setOptions true ['s']
    runScript (← readScript .standardInput)
  | false, false, file :: rest =>
    match ← Activity.openFile .input file with
    | .error error =>
      fail ("cannot open " ++ file ++ ": " ++ wording "No such file" error)
    | .ok opened =>
      let text ← readScript opened
      Activity.close opened
      modify fun state => { state with name := file, arguments := rest }
      runScript text

/-- The interpreter as a program; the first argument is its name. -/
def main (arguments : List String) : Activity Int := do
  let pid ← Activity.ownPid
  let parent ← Activity.parentPid
  let environment := (← Activity.observe).environment
  conclude
    (do
      findDirectory
      modify fun state => { state with name := arguments.headD state.name }
      runRequest (← takeOptions false false (arguments.drop 1)))
    (initialState pid parent environment)

end JobShell.Script.Interpreter
