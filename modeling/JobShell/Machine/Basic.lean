import JobShell.System.Call

/-!
# The machine

The state of a machine on which the shell and its children run: the files, the
processes with their open files, the pipes, and the time.  Time passes only when
no process can go on.
-/

namespace JobShell

/-- What an open file leads to. -/
inductive Channel where
  /-- A file of the tree, opened for one of the uses of a redirection. -/
  | file (number : Nat) (operator : RedirectOp)
  | directory
  | null
  | reader (pipe : Nat)
  | writer (pipe : Nat)
  /-- Collects what is written to it. -/
  | sink (number : Nat)
  deriving DecidableEq, Repr

/-- An open file; `offset` is the place where reading or writing goes on. -/
structure OpenFile where
  channel : Channel
  offset : Nat
  deriving DecidableEq, Repr

inductive Phase where
  | running
  | stopped
  | finished (outcome : ProcessEnd)
  deriving DecidableEq, Repr

/-- A process of the machine.  `inherited` are the descriptors that stay open in
another program, `pending` are the numbers of the signals that wait for it to go
on, `news` is a change that its parent has not heard of, `written` counts the
bytes of a write that is under way, and `activity` is what the process is going
to do.  `tired` says that it does not go on before time has passed.  New
descriptors are below `descriptorLimit`. -/
structure MachineProcess where
  pid : Pid
  parent : Pid
  group : Pid
  place : Place
  environment : Environment
  descriptors : List (Descriptor × Nat)
  inherited : List Descriptor
  descriptorLimit : Nat
  signals : SignalState
  phase : Phase
  pending : List Nat
  news : Option ProcessState
  written : Nat
  tired : Bool
  activity : Activity Int

namespace MachineProcess

def isFinished (process : MachineProcess) : Bool :=
  match process.phase with
  | .finished _ => true
  | _ => false

def isRunning (process : MachineProcess) : Bool := process.phase == .running

/-- The open file behind a descriptor. -/
def opened? (process : MachineProcess) (descriptor : Descriptor) : Option Nat :=
  process.descriptors.lookup descriptor

def drop (process : MachineProcess)
    (descriptor : Descriptor) : MachineProcess :=
  { process with
    descriptors := process.descriptors.filter fun entry => entry.1 != descriptor
    inherited := process.inherited.filter fun other => other != descriptor }

def setDescriptor (process : MachineProcess) (descriptor : Descriptor)
    (opened : Nat) : MachineProcess :=
  { process with
    descriptors :=
      (process.drop descriptor).descriptors ++ [(descriptor, opened)] }

/-- A descriptor that stays open in another program. -/
def setInherited (process : MachineProcess) (descriptor : Descriptor)
    (opened : Nat) : MachineProcess :=
  let process := process.setDescriptor descriptor opened
  { process with inherited := process.inherited ++ [descriptor] }

/-- The process with nothing open but what another program gets. -/
def closeOwn (process : MachineProcess) : MachineProcess :=
  { process with
    descriptors := process.descriptors.filter fun entry =>
      entry.1 ≤ Descriptor.standardError || process.inherited.contains entry.1 }

/-- The least descriptor from `descriptor` on that is free.  There is one among
`fuel + 1` when `fuel` of them are in use. -/
def freeFrom (process : MachineProcess) :
    (fuel : Nat) → (descriptor : Descriptor) → Descriptor
  | 0, descriptor => descriptor
  | fuel + 1, descriptor =>
    if (process.opened? descriptor).isSome then
      process.freeFrom fuel (descriptor + 1)
    else descriptor

def freeDescriptor (process : MachineProcess) : Descriptor :=
  process.freeFrom process.descriptors.length 0

def mayOpen (process : MachineProcess) : Bool :=
  process.freeDescriptor < process.descriptorLimit

end MachineProcess

/-- `shell` is the process that the machine was started for. -/
structure Machine where
  files : FileStore
  accountHome : String
  time : Nat
  shell : Pid
  nextPid : Pid
  processes : List MachineProcess
  opened : Array OpenFile
  pipes : Array ByteArray
  sinks : Array ByteArray

namespace Machine

def process? (machine : Machine) (pid : Pid) : Option MachineProcess :=
  machine.processes.find? fun process => process.pid == pid

def update (machine : Machine) (pid : Pid)
    (change : MachineProcess → MachineProcess) : Machine :=
  { machine with
    processes := machine.processes.map fun process =>
      if process.pid = pid then change process else process }

/-- Takes a process out of the machine. -/
def forget (machine : Machine) (pid : Pid) : Machine :=
  { machine with
    processes := machine.processes.filter fun process => process.pid != pid }

def isRunning (machine : Machine) (pid : Pid) : Bool :=
  ((machine.process? pid).map MachineProcess.isRunning).getD false

/-- What a process sees. -/
def worldOf (machine : Machine) (process : MachineProcess) : World :=
  { files := machine.files, place := process.place,
    environment := process.environment,
    accountHome := machine.accountHome }

/-- What the shell sees. -/
def world (machine : Machine) : World :=
  match machine.process? machine.shell with
  | some process => machine.worldOf process
  | none => { files := machine.files, place := .root,
              environment := [], accountHome := machine.accountHome }

/-- The numbers of the machine's first processes. -/
def firstPid : Pid := 1000

/-- How many descriptors a process may have, unless it is told otherwise. -/
def standardLimit : Nat := 1024

/-- A machine on which nothing but the shell runs.  The shell has no input, and
what it writes is collected. -/
def start (world : World) : Machine :=
  let shell : MachineProcess :=
    { pid := firstPid, parent := 0, group := firstPid, place := world.place
      environment := world.environment
      descriptors :=
        [(.standardInput, 0), (.standardOutput, 1), (.standardError, 2)]
      inherited := [], descriptorLimit := standardLimit, signals := .initial,
      phase := .running, pending := [], news := none
      written := 0, tired := false, activity := pure 0 }
  { files := world.files, accountHome := world.accountHome, time := 0
    shell := firstPid, nextPid := firstPid + 1, processes := [shell]
    opened := #[⟨.null, 0⟩, ⟨.sink 0, 0⟩, ⟨.sink 1, 0⟩], pipes := #[]
    sinks := #[ByteArray.empty, ByteArray.empty] }

/-- What has been written to the shell's output and error output; the machine
forgets it. -/
def drain (machine : Machine) : ByteArray × ByteArray × Machine :=
  (machine.sinks.getD 0 ByteArray.empty, machine.sinks.getD 1 ByteArray.empty,
    { machine with sinks := #[ByteArray.empty, ByteArray.empty] })

/-- Whether a process has an open file of this kind. -/
def hasOpen (machine : Machine) (channel : Channel) : Bool :=
  machine.processes.any fun process =>
    process.descriptors.any fun entry =>
      (machine.opened[entry.2]?.map OpenFile.channel) == some channel

/-- Whether somebody can write to a file. -/
def isBeingWritten (machine : Machine) (file : Nat) : Bool :=
  machine.hasOpen (.file file .output) || machine.hasOpen (.file file .append)

/-- The open file behind a descriptor of a process, and its number. -/
def openedBy? (machine : Machine) (pid : Pid) (descriptor : Descriptor) :
    Option (Nat × OpenFile) := do
  let process ← machine.process? pid
  let number ← process.opened? descriptor
  let file ← machine.opened[number]?
  pure (number, file)

def mayOpen (machine : Machine) (pid : Pid) : Bool :=
  ((machine.process? pid).map MachineProcess.mayOpen).getD false

/-- Opens a channel for a process. -/
def openChannel (machine : Machine) (pid : Pid)
    (channel : Channel) : Descriptor × Machine :=
  let number := machine.opened.size
  let descriptor :=
    ((machine.process? pid).map MachineProcess.freeDescriptor).getD 0
  (descriptor,
    { machine with opened := machine.opened.push ⟨channel, 0⟩ }.update pid
      fun process =>
        process.setDescriptor descriptor number)

def setOffset (machine : Machine) (number offset : Nat) : Machine :=
  { machine with
    opened := machine.opened.modify number fun file => { file with offset } }

/-- Bytes with others put at a place; zeros fill a gap in front of it. -/
def overwrite (bytes : ByteArray) (offset : Nat)
    (new : ByteArray) : ByteArray :=
  let front := bytes.extract 0 offset
  let gap : ByteArray :=
    ⟨(List.replicate (offset - bytes.size) (0 : UInt8)).toArray⟩
  front ++ gap ++ new ++ bytes.extract (offset + new.size) bytes.size

def writeFile (machine : Machine) (file : Nat) (bytes : ByteArray) : Machine :=
  { machine with files := machine.files.write file bytes }

/-- The numbers of the processes of a group. -/
def members (machine : Machine) (group : Pid) : List Pid :=
  (machine.processes.filter fun process => process.group == group).map
    MachineProcess.pid

end Machine

end JobShell
