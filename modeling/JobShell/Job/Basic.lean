import JobShell.Signal

/-!
# Jobs

A job is the pipeline that one command line launched: a process group, its
processes with what is known of their states, and the marks that the job list
shows.
-/

namespace JobShell

abbrev Pid := Nat

inductive ProcessState where
  | running
  | stopped (signal : Signal)
  | exited (status : Int)
  | killed (signal : Signal)
  deriving DecidableEq, Repr

namespace ProcessState

def isFinished : ProcessState → Bool
  | exited _ | killed _ => true
  | _ => false

def isStopped : ProcessState → Bool
  | stopped _ => true
  | _ => false

/-- The exit status that a state stands for: 128 and the signal's number when a
signal killed or stopped the process. -/
def status : ProcessState → Int
  | running => 0
  | exited status => status
  | stopped signal | killed signal => 128 + signal.number

end ProcessState

structure Process where
  pid : Pid
  state : ProcessState
  deriving DecidableEq, Repr

inductive JobState where
  | running
  | stopped
  | done
  deriving DecidableEq, Repr, Inhabited

namespace JobState

def word : JobState → String
  | running => "running"
  | stopped => "stopped"
  | done => "done"

end JobState

/-- `reported` is the state that the user was last told. -/
structure Job where
  group : Pid
  serial : Nat
  command : String
  processes : List Process
  background : Bool
  isCurrent : Bool
  isPrevious : Bool
  reported : JobState
  deriving DecidableEq, Repr

namespace Job

def launched (group : Pid) (serial : Nat) (pids : List Pid) (command : String)
    (background : Bool) : Job :=
  { group, serial, command, background
    processes := pids.map fun pid => { pid, state := .running }
    isCurrent := false, isPrevious := false, reported := .running }

/-- Done when all processes have finished, and stopped when one of them is. -/
def state (job : Job) : JobState :=
  if job.processes.all fun process => process.state.isFinished then .done
  else if job.processes.any fun process => process.state.isStopped then .stopped
  else .running

def pids (job : Job) : List Pid := job.processes.map Process.pid

def leader (job : Job) : Pid := job.pids.headD job.group

/-- The status of the first stopped process, or else of the last process. -/
def exitStatus (job : Job) : Int :=
  match job.processes.find? fun process => process.state.isStopped with
  | some stopped => stopped.state.status
  | none =>
    (job.processes.getLast?.map fun process => process.state.status).getD 0

/-- The processes that have not finished. -/
def livePids (job : Job) : List Pid :=
  (job.processes.filter fun process => !process.state.isFinished).map
    Process.pid

/-- The processes with the first one of this number in a new state. -/
def recordIn (pid : Pid) (state : ProcessState) : List Process → List Process
  | [] => []
  | process :: rest =>
    if process.pid = pid then { process with state } :: rest
    else process :: recordIn pid state rest

def record (job : Job) (pid : Pid) (state : ProcessState) : Job :=
  { job with processes := recordIn pid state job.processes }

/-- The job after its stopped processes have been told to go on. -/
def continued (job : Job) : Job :=
  { job with
    processes := job.processes.map fun process =>
      if process.state.isStopped then { process with state := .running }
      else process
    reported := .running }

def mark (job : Job) : String :=
  if job.isCurrent then "+" else if job.isPrevious then "-" else " "

/-- A word filled with spaces up to a width. -/
def padded (width : Nat) (word : String) : String :=
  word ++ String.ofList (List.replicate (width - word.length) ' ')

/-- The line of the job list. -/
def display (job : Job) : String :=
  "[" ++ toString job.serial ++ "]" ++ job.mark ++ " " ++
    toString job.leader ++ " " ++
    padded 8 job.state.word ++ " " ++ job.command

end Job

end JobShell
