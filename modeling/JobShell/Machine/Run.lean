import JobShell.Files.Edit
import JobShell.Machine.Calls

/-!
# Running the machine

The shell goes on as long as it can.  When it has to wait, the other processes
go on in turn, each until it has to wait or becomes another program; when nobody
can go on, time passes up to the next moment that somebody waits for.  A process
that does not come to a stop by itself gets tired.
-/

namespace JobShell.Machine

/-- Puts aside what a process is going to do. -/
def park (machine : Machine) (pid : Pid) (activity : Activity Int) : Machine :=
  machine.update pid fun process =>
    if process.isFinished then process else { process with activity }

/-- A child has come to its end with a status, of which the last byte counts. -/
def exit (machine : Machine) (pid : Pid) (status : Int) : Machine :=
  machine.finish pid (.exited (status % 256))

/-- So many calls a process makes at one moment at most. -/
def callLimit : Nat := 4096

/-- Lets a process go on as long as it can, or for so many calls; says whether
it has come any further. -/
def goOn (pid : Pid) :
    Activity Int → (calls : Nat) → (moved : Bool) → Machine → Bool × Machine
  | .ret status, _, _, machine => (true, machine.exit pid status)
  | activity@(.call _ _), 0, _, machine =>
    (true, (machine.park pid activity).update pid fun process =>
      { process with tired := true })
  | .call call next, calls + 1, moved, machine =>
    match machine.process? pid with
    | none => (moved, machine)
    | some process =>
      match machine.perform process call with
      | .waiting => (moved, machine.park pid (.call call next))
      | .advanced machine => (true, machine.park pid (.call call next))
      | .replaced activity machine => (true, machine.park pid activity)
      | .answered reply machine =>
        if machine.isRunning pid then goOn pid (next reply) calls true machine
        else (true, machine.park pid (next reply))

/-- Lets a process go on if it can; says whether it has come any further. -/
def move (machine : Machine) (pid : Pid) : Bool × Machine :=
  match machine.process? pid with
  | none => (false, machine)
  | some process =>
    if process.isRunning && !process.tired && pid != machine.shell then
      goOn pid process.activity callLimit false machine
    else (false, machine)

/-- Lets some processes go on in turn; says whether anybody has come any
further. -/
def moveAll (machine : Machine) : List Pid → Bool × Machine
  | [] => (false, machine)
  | pid :: rest =>
    let (moved, machine) := machine.move pid
    let (others, machine) := machine.moveAll rest
    (moved || others, machine)

/-- More steps than any machine takes. -/
def stepLimit : Nat := Nat.pow 2 64

/-- Lets all but the shell go on as long as that takes no time; says whether
anybody has come any further. -/
def settle : (rounds : Nat) → Machine → Bool × Machine
  | 0, machine => (false, machine)
  | rounds + 1, machine =>
    match machine.moveAll (machine.processes.map MachineProcess.pid) with
    | (false, machine) => (false, machine)
    | (true, machine) => (true, (settle rounds machine).2)

/-- The moment that a call waits for. -/
def alarm? : Call → Option Nat
  | .sleepUntil time => some time
  | _ => none

/-- The moment that a process waits for. -/
def alarmOf? (process : MachineProcess) : Option Nat :=
  if process.isRunning then
    match process.activity with
    | .call call _ => alarm? call
    | .ret _ => none
  else none

/-- The first one of some moments to come.  When there is none, tired processes
want to go on a little later. -/
def nextMoment? (machine : Machine) (alarms : List Nat) : Option Nat :=
  ((alarms.filter fun alarm => machine.time < alarm).min?).or
    (if machine.processes.any MachineProcess.tired then
      some (machine.time + 1) else none)

/-- Lets time pass, after which nobody is tired any more. -/
def passTime (machine : Machine) (alarms : List Nat) : Option Machine :=
  (machine.nextMoment? alarms).map fun time =>
    { machine with
      time
      processes := machine.processes.map fun process =>
        { process with tired := false } }

/-- Lets the others go on while the shell waits in a call. -/
def stepOthers (machine : Machine) (shellAlarm : Option Nat) : Option Machine :=
  match settle stepLimit machine with
  | (true, machine) => some machine
  | (false, machine) =>
    machine.passTime (shellAlarm.toList ++ machine.processes.filterMap alarmOf?)

/-- Answers a call of the shell, after as many steps of others as it takes.
There is no answer when nobody can go on any more. -/
def answer (call : Call) :
    (steps : Nat) → Machine → Option (call.Reply × Machine)
  | 0, _ => none
  | steps + 1, machine =>
    match machine.process? machine.shell with
    | none => none
    | some process =>
      match machine.perform process call with
      | .answered reply machine => some (reply, machine)
      | .replaced _ _ => none
      | .advanced machine => answer call steps machine
      | .waiting => (machine.stepOthers (alarm? call)).bind (answer call steps)

/-- Runs an activity of the shell to its result. -/
def run {α : Type} (activity : Activity α)
    (machine : Machine) : Option (α × Machine) :=
  activity.run (fun call machine => answer call stepLimit machine) machine

/-- Lets all others go on until some processes have finished. -/
def awaitFinished (pids : List Pid) : (steps : Nat) → Machine → Machine
  | 0, machine => machine
  | steps + 1, machine =>
    let finished := pids.all fun pid =>
      ((machine.process? pid).map MachineProcess.isFinished).getD true
    if finished then machine
    else
      match machine.stepOthers none with
      | none => machine
      | some machine => machine.awaitFinished pids steps

/-- Whether anybody may still write to the shell's output or error output. -/
def isHeard (machine : Machine) : Bool :=
  machine.hasOpen (.sink 0) || machine.hasOpen (.sink 1)

/-- Lets the others go on as long as one of them may still be heard. -/
def awaitSilence : (steps : Nat) → Machine → Machine
  | 0, machine => machine
  | steps + 1, machine =>
    if machine.isHeard then
      match machine.stepOthers none with
      | none => machine
      | some machine => machine.awaitSilence steps
    else machine

/-- The shell comes to its end, and after it those that it has left behind. -/
def close (machine : Machine) (status : Int) : Machine :=
  (machine.exit machine.shell status).awaitSilence stepLimit

/-- Changes the files of the machine as the shell sees them. -/
def edit (machine : Machine) (change : World → World) : Machine :=
  machine.setWorld machine.shell (change machine.world)

/-- Removes a file or a directory; working directories in it are in no tree from
then on. -/
def remove (machine : Machine) (path : String) : Machine :=
  match machine.world.locate? path with
  | none => machine
  | some location =>
    let machine := machine.edit fun world => world.remove path
    { machine with
      processes := machine.processes.map fun process =>
        { process with place := process.place.without location } }

/-- Stops all processes of a group. -/
def stopGroup (machine : Machine) (group : Pid) : Machine :=
  match machine.deliverGroup group .stop with
  | .ok machine => machine
  | .error _ => machine

end JobShell.Machine
