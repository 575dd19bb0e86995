import JobShell.Execution.Stage

/-!
# Running sequences

A pipeline is a builtin that runs in the shell itself, or a job of one child for
each stage.  A sequence runs its pipelines one after the other, as far as their
joins allow; in the background, a sequence of several pipelines runs in a child.
-/

namespace JobShell

namespace Shell

/-- Reports the failure of an action; its status takes the place of the
result. -/
def reported (action : Shell Int) : Shell Int := do
  match ← attempt action with
  | .ok status => pure status
  | .error failure => report failure

/-- Runs a builtin in the shell itself.  It reads no input, but the file to read
from has to be there. -/
def runBuiltin (command : Command) : Shell Int := do
  let output ← (command.redirectionFor Descriptor.standardOutput).mapM
    openRedirection
  let outcome ← attempt (do
    let input ← (command.redirectionFor Descriptor.standardInput).mapM
      openRedirection
    Activity.closeAll input.toList
    match ← Builtin.dispatch command.arguments
      (output.getD .standardOutput) with
    | .ran status => pure status
    | .notBuiltin => throw (.launch command.program .notFound))
  Activity.closeAll output.toList
  ofOutcome outcome

/-- What has been launched of a pipeline so far: its group, its processes, the
pipe that the next stage reads, and the status of a failure to launch the stage
that was tried last. -/
structure Launched where
  group : Option Pid
  pids : List Pid
  input : Option Descriptor
  failure : Option Int
  deriving DecidableEq, Repr

namespace Launched

def nothing : Launched :=
  { group := none, pids := [], input := none, failure := none }

end Launched

/-- The pipe behind a stage, unless it is the last one: what the next stage
reads, and what this one writes. -/
def openPipeIf (needed : Bool) :
    Shell (Option Descriptor × Option Descriptor) := do
  if needed then
    match ← Activity.openPipe with
    | .ok (reader, writer) => pure (some reader, some writer)
    | .error errno => throw (.system errno)
  else pure (none, none)

/-- Launches the stages of a pipeline.  A stage that cannot be launched is
reported, and the others go on without it. -/
def launchStages (background : Bool) : List Command → Launched → Shell Launched
  | [], launched => pure launched
  | command :: rest, launched => do
    match ← attempt (openPipeIf !rest.isEmpty) with
    | .error failure =>
      Activity.closeAll launched.input.toList
      throw failure
    | .ok (nextInput, output) =>
      match ← attempt
        (spawn command launched.input output launched.group background) with
      | .ok pid =>
        launchStages background rest
          { group := some (launched.group.getD pid),
            pids := launched.pids ++ [pid],
            input := nextInput, failure := none }
      | .error failure =>
        let status ← report failure
        launchStages background rest
          { launched with input := nextInput, failure := some status }

/-- Enters a job into the table. -/
def addJob (group : Pid) (pids : List Pid) (line : String)
    (background : Bool) : Shell Nat := do
  let (serial, table) := (← get).jobs.add group pids line background
  modifyJobs fun _ => table
  pure serial

def announce (serial : Nat) (pid : Pid) : Activity Unit :=
  Activity.say .standardOutput ("[" ++ toString serial ++ "] " ++ toString pid)

/-- Waits for a job that has just been launched, and shows it when it stops. -/
def waitForLaunched (serial : Nat) : Shell WaitOutcome := do
  let outcome ← waitFor serial false
  match outcome with
  | .exited _ => pure ()
  | .stopped serial _ =>
    match (← get).jobs.get? serial with
    | some job => Activity.say .standardOutput ("\n" ++ job.display)
    | none => pure ()
  pure outcome

/-- Launches a pipeline as a job.  Its status is that of its last stage. -/
def runJob (pipeline : Pipeline) (background : Bool) : Shell Int := do
  let launched ← launchStages background pipeline.stages .nothing
  match launched.group with
  | none => pure (launched.failure.getD 1)
  | some leader =>
    let terminal := (← get).terminal
    let group := if terminal.ownGroups then leader else terminal.shellGroup
    let serial ← addJob group launched.pids pipeline.display background
    if background then
      announce serial (launched.pids.getLast?.getD leader)
      pure 0
    else
      let outcome ← waitForLaunched serial
      pure (launched.failure.getD outcome.status)

def runPipeline (background : Bool) (pipeline : Pipeline) : Shell Int :=
  match pipeline.stages with
  | [command] => if command.builtin then runBuiltin command
      else runJob pipeline background
  | _ => runJob pipeline background

/-- Whether a pipeline behind this join is left out after a status. -/
def isSkipped (after : Join) (status : Int) : Bool :=
  match after with
  | .andThen => status != 0
  | .orElse => status == 0
  | _ => false

/-- Runs pipelines in turn, given the status so far.  A failure is reported and
counts as its status; a request to quit ends the run. -/
def runPipelines (runOne : Pipeline → Shell Int)
    (status : Int) : List Pipeline → Shell Int
  | [] => pure status
  | pipeline :: rest =>
    if isSkipped pipeline.after status then runPipelines runOne status rest
    else do
      let status ← reported (runOne pipeline)
      modify fun session => { session with lastStatus := status }
      if (← get).quitRequested then pure status
      else runPipelines runOne status rest

/-- Sends a whole sequence to the background, as a job of one child. -/
def runSubshell (sequence : Sequence) : Shell Int := do
  match ← Activity.fork (.subshell (← get) sequence) with
  | .error errno => throw (.system errno)
  | .ok child =>
    enterGroup child none
    let serial ← addJob child [child] sequence.display true
    announce serial child
    pure 0

/-- Runs a sequence; gives the status of the pipeline that was run last. -/
def execute (sequence : Sequence) : Shell Int := do
  if sequence.isEmpty then pure (← get).lastStatus
  else if sequence.background && sequence.pipelines.length > 1 then
    let status ← reported (runSubshell sequence)
    modify fun session => { session with lastStatus := status }
    pure status
  else
    runPipelines (runPipeline sequence.background)
      (← get).lastStatus sequence.pipelines

/-- Forgets what belongs to the shell that a child comes from. -/
def detach : Shell Unit := do
  match (← get).relay with
  | some relay => Activity.uninstallRelay relay
  | none => pure ()
  Activity.resetSignals
  let group ← Activity.ownGroup
  modify fun session =>
    { session with relay := none, jobs := .empty, terminal := .subshell group }

end Shell

namespace Task

/-- What the child for a sequence does: it runs the sequence in its own
foreground. -/
def subshellBody (session : Session) (sequence : Sequence) : Activity Int := do
  if session.terminal.ownGroups then
    let me ← Activity.ownPid
    discard (Activity.joinGroup me me)
  let run : Shell Int := do
    Shell.detach
    Shell.execute { sequence with background := false }
  let (outcome, _) ← ExceptT.run run session
  match outcome with
  | .ok status => pure status
  | .error failure => pure failure.status

end Task

end JobShell
