import JobShell.Files.Search
import JobShell.System.Call
import JobShell.Script.Reader

/-!
# Running scripts

What an interpreter of scripts does while it runs: it works on its state, makes
calls, and may break off what it is doing.
-/

namespace JobShell.Script

/-- Why a statement is broken off. -/
inductive Escape where
  /-- The script is over. -/
  | leave (status : Int)
  | breakLoop (levels : Nat)
  | continueLoop (levels : Nat)
  /-- The function, or the file, is over. -/
  | giveBack (status : Int)
  /-- Something has been complained about. -/
  | failure (status : Int)
  deriving DecidableEq, Repr

/-- What an interpreter does. -/
abbrev Run := ExceptT Escape (StateT State Activity)

namespace Run

/-- Runs an action and goes on also when it has been broken off. -/
def attempt {α : Type} (action : Run α) : Run (Except Escape α) :=
  ExceptT.lift (ExceptT.run action)

def ofOutcome {α : Type} : Except Escape α → Run α
  | .ok value => pure value
  | .error escape => throw escape

def setStatus (status : Int) : Run Unit :=
  modify fun state => { state with status }

/-- Complains in the name of the script, and of the builtin command that is
running. -/
def warn (message : String) : Run Unit := do
  let state ← get
  let blamed := state.command.toList.map fun command => command ++ ": "
  Activity.say .standardError
    (state.name ++ ": " ++ toString state.line ++ ": " ++
      String.join blamed ++ message)

/-- Runs an action in the name of a builtin command. -/
def inName {α : Type} (command : String) (action : Run α) : Run α := do
  let outer := (← get).command
  modify fun state => { state with command := some command }
  let outcome ← attempt action
  modify fun state => { state with command := outer }
  ofOutcome outcome

/-- The status of a failure. -/
def failureStatus : Int := 2

/-- Complains and breaks off. -/
def fail {α : Type} (message : String) : Run α := do
  warn message
  throw (.failure failureStatus)

/-- What the C library, or the interpreter itself, says about an error.  What is
missing is spoken of in the interpreter's own words. -/
def wording (missing : String) : FileError → String
  | .system errno =>
    if errno = .noEntry || errno = .notDirectory then missing else errno.text
  | error => error.message

/-- The environment of the programs that the script launches. -/
def environment : Run Environment := do pure (← get).exported

/-- The place where descriptors are put aside. -/
def asideFrom : Descriptor := 10

/-- What has to be done to undo a redirection: the descriptor, and where the one
that it had is kept. -/
abbrev Undo := Descriptor × Option Descriptor

/-- Puts a descriptor aside. -/
def putAside (descriptor : Descriptor) : Run Undo := do
  let aside := asideFrom + (← get).saved
  match ← Activity.duplicate descriptor aside with
  | .ok () =>
    modify fun state => { state with saved := state.saved + 1 }
    pure (descriptor, some aside)
  | .error _ => pure (descriptor, none)

/-- Puts descriptors back, the last ones first. -/
def putBack : List Undo → Run Unit
  | [] => pure ()
  | (descriptor, aside) :: rest => do
    putBack rest
    match aside with
    | none => Activity.close descriptor
    | some aside =>
      discard (Activity.duplicate aside descriptor)
      Activity.close aside
      modify fun state => { state with saved := state.saved - 1 }

/-- The descriptors that are put aside at the moment. -/
def putAsideNow : Run (List Descriptor) := do
  pure ((List.range (← get).saved).map fun index => asideFrom + index)

/-- Starts a child. -/
def start (work : Work) (setup : ChildSetup) : Run Pid := do
  match ← Activity.fork (.script (← get) work setup) with
  | .ok pid => pure pid
  | .error _ => fail "Cannot fork"

/-- How the C library speaks of a signal. -/
def signalText (number : Nat) : String :=
  match texts[number - 1]? with
  | some text => text
  | none =>
    if number < firstRealTime then "Unknown signal " ++ toString number
    else "Real-time signal " ++ toString (number - firstRealTime)
where
  firstRealTime : Nat := 34
  texts : List String :=
    ["Hangup", "Interrupt", "Quit", "Illegal instruction",
      "Trace/breakpoint trap", "Aborted", "Bus error",
      "Floating point exception", "Killed", "User defined signal 1",
      "Segmentation fault", "User defined signal 2", "Broken pipe",
      "Alarm clock", "Terminated", "Stack fault", "Child exited", "Continued",
      "Stopped (signal)", "Stopped", "Stopped (tty input)",
      "Stopped (tty output)", "Urgent I/O condition", "CPU time limit exceeded",
      "File size limit exceeded", "Virtual timer expired",
      "Profiling timer expired", "Window changed", "I/O possible",
      "Power failure", "Bad system call"]

/-- The signals whose victims are passed over in silence. -/
def silent (number : Nat) : Bool :=
  number == Signal.number .int || number == Signal.number .pipe

/-- The status that the end of a process stands for. -/
def statusOf : ProcessEnd → Int
  | .exited status => status
  | .killed number => 128 + number

/-- Says which signal has ended a process. -/
def tell : ProcessEnd → Activity Unit
  | .exited _ => pure ()
  | .killed number =>
    if silent number then pure ()
    else Activity.say .standardError (signalText number)

/-- Waits for a child of the foreground. -/
def awaitStatus (pid : Pid) : Run Int := do
  match ← Activity.awaitChild pid false with
  | .error _ => pure 0
  | .ok outcome =>
    tell outcome
    pure (statusOf outcome)

/-- Waits for children in turn; gives the status of the last one. -/
def awaitStatuses : List Pid → Run Int
  | [] => pure 0
  | [pid] => awaitStatus pid
  | pid :: rest => do
    discard (awaitStatus pid)
    awaitStatuses rest

end Run

end JobShell.Script
