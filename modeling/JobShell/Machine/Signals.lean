import JobShell.Machine.Basic

/-!
# Signals and the end of processes

A signal acts on a process at once, unless the process is stopped: then all but
those that kill it or make it go on have to wait.  The parent of a process is
told when it stops, goes on, or has finished.
-/

namespace JobShell.Machine

/-- Tells the parent of a process that something has become of it. -/
def notifyParent (machine : Machine) (process : MachineProcess) : Machine :=
  machine.update process.parent fun parent =>
    { parent with signals := (parent.signals.receive .chld).2 }

/-- The children of a process that has gone belong to nobody; those that have
finished go too. -/
def disinherit (machine : Machine) (pid : Pid) : Machine :=
  let kept := machine.processes.filter fun process =>
    !(process.parent == pid && process.isFinished)
  { machine with
    processes := kept.map fun process =>
      if process.parent = pid then { process with parent := 0 } else process }

/-- A process has finished; it stays until its parent has heard of it. -/
def finish (machine : Machine) (pid : Pid) (outcome : ProcessEnd) : Machine :=
  match machine.process? pid with
  | none => machine
  | some process =>
    if process.isFinished then machine
    else
      let machine := machine.disinherit pid
      if process.parent = 0 && pid != machine.shell then machine.forget pid
      else
        let machine := machine.update pid fun process =>
          { process with
            phase := .finished outcome, descriptors := [], inherited := [],
            pending := []
            news := none, activity := pure 0 }
        machine.notifyParent process

/-- A process changes between running and stopped, and its parent hears of
it. -/
def changePhase (machine : Machine) (pid : Pid) (phase : Phase)
    (news : ProcessState) : Machine :=
  match machine.process? pid with
  | none => machine
  | some process =>
    (machine.update pid fun process =>
      { process with phase, news := some news }).notifyParent process

/-- The signals that act on a stopped process too. -/
def actsOnStopped (number : Nat) : Bool :=
  number == Signal.number .kill || number == Signal.number .cont || number ==
    Signal.number .stop

/-- What a signal does by itself. -/
def act (machine : Machine) (pid : Pid)
    (signal : Signal) : Signal.Action → Machine
  | .terminate => machine.finish pid (.killed signal.number)
  | .stop => if machine.isRunning pid then
      machine.changePhase pid .stopped (.stopped signal)
    else machine
  | .ignore | .resume => machine

/-- A signal reaches a running process.  It may be handed on to a group, at most
`depth` times. -/
def reach : (depth : Nat) → Machine → Pid → Signal → Machine
  | 0, machine, _, _ => machine
  | depth + 1, machine, pid, signal =>
    if signal = .kill || signal = .stop then
      machine.act pid signal signal.defaultAction
    else
      match machine.process? pid with
      | none => machine
      | some process =>
        let (reaction, signals) := process.signals.receive signal
        let machine :=
          machine.update pid fun process => { process with signals }
        match reaction with
        | .nothing => machine
        | .act action => machine.act pid signal action
        | .forward group =>
          (machine.members group).foldl
            (fun machine member => reach depth machine member signal) machine

/-- Terminal signals are handed on from the shell to a job; nobody hands them on
any further. -/
def relayDepth : Nat := 3

/-- The signal of a number reaches a running process.  One without a name ends
it. -/
def reachNumber (machine : Machine) (pid : Pid) (number : Nat) : Machine :=
  match Signal.ofNumber? number with
  | some signal => reach relayDepth machine pid signal
  | none => machine.finish pid (.killed number)

/-- Makes a stopped process go on; signals that have waited reach it now. -/
def resume (machine : Machine) (pid : Pid) : Machine :=
  match machine.process? pid with
  | none => machine
  | some process =>
    let waiting := process.pending
    let machine := machine.update pid fun process =>
      { process with pending := [] }
    let machine := machine.changePhase pid .running .running
    waiting.foldl (fun machine number => machine.reachNumber pid number) machine

/-- Sends the signal of a number to a process. -/
def deliverNumber (machine : Machine) (pid : Pid) (number : Nat) : Machine :=
  match machine.process? pid with
  | none => machine
  | some process =>
    match process.phase with
    | .finished _ => machine
    | .running => machine.reachNumber pid number
    | .stopped =>
      if number = Signal.number .cont then machine.resume pid
      else if actsOnStopped number then machine.reachNumber pid number
      else machine.update pid fun process =>
        { process with pending := process.pending ++ [number] }

def deliver (machine : Machine) (pid : Pid) (signal : Signal) : Machine :=
  machine.deliverNumber pid signal.number

/-- Sends the signal of a number to some processes; there has to be one.  The
number 0 is no signal. -/
def deliverAll (machine : Machine) (pids : List Pid)
    (number : Nat) : Except Errno Machine :=
  if pids.isEmpty then .error .noProcess
  else if number = 0 then .ok machine
  else
    .ok (pids.foldl (fun machine pid => machine.deliverNumber pid number)
      machine)

/-- Sends a signal to a group. -/
def deliverGroup (machine : Machine) (group : Pid)
    (signal : Signal) : Except Errno Machine :=
  machine.deliverAll (machine.members group) signal.number

/-- The processes that a sender means. -/
def targets (machine : Machine)
    (sender : MachineProcess) : SignalTarget → List Pid
  | .process pid => ((machine.process? pid).map MachineProcess.pid).toList
  | .group group => machine.members group
  | .ownGroup => machine.members sender.group

end JobShell.Machine
