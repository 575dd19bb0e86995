import JobShell.System.Call

/-!
# Job control

How the shell learns what has become of its jobs, waits for one of them in the
foreground, and sends signals to them.
-/

namespace JobShell

/-- How waiting for a job has ended. -/
inductive WaitOutcome where
  | exited (status : Int)
  | stopped (serial : Nat) (status : Int)
  deriving DecidableEq, Repr

namespace WaitOutcome

def status : WaitOutcome → Int
  | exited status => status
  | stopped _ status => status

end WaitOutcome

namespace Shell

def noSuchJob (command : String) (serial : Nat) : Failure :=
  .runtime command (.noSuchJob ("%" ++ toString serial))

/-- The job with a serial, or a complaint in the name of a command. -/
def job (command : String) (serial : Nat) : Shell Job := do
  match (← get).jobs.get? serial with
  | some job => pure job
  | none => throw (noSuchJob command serial)

/-- Looks at processes one after the other. -/
def poll : List Pid → Activity (List (Pid × WaitAnswer))
  | [] => pure []
  | pid :: rest => do
    let answer ← Activity.wait pid .poll
    let others ← poll rest
    pure ((pid, answer) :: others)

/-- Takes in what has become of all jobs; gives those to tell the user about. -/
def reap : Shell (List Job) := do
  let answers ← poll (← get).jobs.registered
  let (notices, table) := (← get).jobs.reap answers
  modifyJobs fun _ => table
  pure notices

/-- Takes in what has become of the jobs, if there can be anything new: without
a relay nobody says so. -/
def syncJobs : Shell (List Job) := do
  if (← get).relay.isNone then reap
  else if ← Activity.takeChildEvent then reap
  else pure []

/-- How many answers in a row may say nothing about the end of a process. -/
def patience : Nat := Nat.pow 2 64

/-- Waits until a process has stopped, or has finished; says whether it has
stopped. -/
def awaitProcess : (patience : Nat) → Pid → Shell Bool
  | 0, _ => Activity.hang
  | patience + 1, pid => do
    let answer ← Activity.wait pid .block
    modifyJobs fun table => table.recordAnswer pid answer
    match answer with
    | .changed _ (.stopped _) => pure true
    | .changed _ .running | .noChange | .other => awaitProcess patience pid
    | .changed _ (.exited _) | .changed _ (.killed _) => pure false
    | .failed errno =>
      if errno = .interrupted then awaitProcess patience pid
      else if errno = .noChild then pure false
      else throw (.system errno)

/-- Waits for processes in turn, up to the first one that stops. -/
def awaitProcesses : List Pid → Shell Unit
  | [] => pure ()
  | pid :: rest => do
    if ← awaitProcess patience pid then pure () else awaitProcesses rest

def giveTerminal (group : Pid) : Shell Unit := do
  if (← get).terminal.interactive then discard (Activity.giveTerminal group)

def reclaimTerminal : Shell Unit := do
  giveTerminal (← get).terminal.shellGroup

/-- The job as it goes to the foreground; `resume` says that it goes on there
after a stop. -/
def toForeground (resume : Bool) (job : Job) : Job :=
  { (if resume then job.continued else job) with background := false }

/-- What is left to do when the members of a job have been waited for. -/
def settleForeground (serial : Nat) : Shell WaitOutcome := do
  match (← get).jobs.get? serial with
  | none => pure (.exited 0)
  | some job =>
    if job.state = .done then
      modifyJobs fun table => (table.remove serial).2
      pure (.exited job.exitStatus)
    else
      modifyJobs fun table =>
        table.update serial fun job =>
          { job with background := true, reported := .stopped }
      pure (.stopped serial job.exitStatus)

/-- Waits for a job in the foreground until it stops or has finished. -/
def waitFor (serial : Nat) (resume : Bool) : Shell WaitOutcome := do
  let job ← job "fg" serial
  modifyJobs fun table =>
    (table.update serial (toForeground resume)).makeCurrent serial
  giveTerminal job.group
  Activity.setForeground (some job.group)
  if resume then discard (Activity.signalGroup job.group .cont)
  let pids := (((← get).jobs.get? serial).map Job.livePids).getD []
  let waited ← attempt (awaitProcesses pids)
  Activity.setForeground none
  reclaimTerminal
  ofOutcome waited
  settleForeground serial

def signalGroup (group : Pid) (signal : Signal) : Shell Unit := do
  match ← Activity.signalGroup group signal with
  | .ok () => pure ()
  | .error errno => throw (.system errno)

/-- Lets a stopped job go on in the background. -/
def resumeBackground (serial : Nat) : Shell Job := do
  let stopped ← job "bg" serial
  signalGroup stopped.group .cont
  modifyJobs fun table =>
    (table.update serial
      fun job => { job.continued with background := true }).makeCurrent serial
  job "bg" serial

/-- Sends a signal to all processes of a job; stopped ones are made to go on, so
that they take notice of it. -/
def signalJob (serial : Nat) (signal : Signal) : Shell Unit := do
  let job ← job "kill" serial
  signalGroup job.group signal
  if job.state = .stopped then signalGroup job.group .cont

def hangUp (job : Job) : Activity Unit := do
  discard (Activity.signalGroup job.group .hup)
  if job.state = .stopped then discard (Activity.signalGroup job.group .cont)

/-- Tells all jobs that the shell goes away. -/
def hangUpAll : Shell Unit := do
  let jobs := (← get).jobs.jobs
  (jobs.forM hangUp : Activity Unit)

end Shell

end JobShell
