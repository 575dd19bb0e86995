import JobShell.Files.ScriptHead
import JobShell.Programs.Main
import JobShell.Machine.Children
import JobShell.Machine.Signals

/-!
# How the machine meets calls

A call is answered, or has to wait until something has happened elsewhere.  A
call that launches a program has no answer when it succeeds.
-/

namespace JobShell

/-- What comes of a call. -/
inductive Outcome (α : Type) where
  | answered (reply : α) (machine : Machine)
  | waiting
  /-- The call has come further, but there is no answer yet. -/
  | advanced (machine : Machine)
  /-- The process goes on with something else. -/
  | replaced (activity : Activity Int) (machine : Machine)

namespace Outcome

def ofResult {α : Type} (machine : Machine) :
    Except Errno (α × Machine) → Outcome (Except Errno α)
  | .ok (value, machine) => answered (.ok value) machine
  | .error errno => answered (.error errno) machine

end Outcome

namespace Machine

/-- Changes what a process sees of the machine. -/
def setWorld (machine : Machine) (pid : Pid) (world : World) : Machine :=
  { machine with files := world.files }.update pid fun process =>
    { process with place := world.place, environment := world.environment }

def channelOf (operator : RedirectOp) : Opened → Channel
  | .file number => .file number operator
  | .program _ | .null => .null
  | .directory => .directory

def openFile (machine : Machine) (pid : Pid) (world : World)
    (operator : RedirectOp) (path : String) :
    Except FileError Descriptor × Machine :=
  if !machine.mayOpen pid then (.error (.system .tooManyOpen), machine)
  else
    match world.openFile operator path with
    | .error error => (.error error, machine)
    | .ok (opened, world) =>
      let (descriptor, machine) :=
        (machine.setWorld pid world).openChannel pid (channelOf operator opened)
      (.ok descriptor, machine)

/-- A file is open while a text is appended to it. -/
def appendText (machine : Machine) (pid : Pid) (world : World)
    (path text : String) : Except FileError Unit × Machine :=
  if !machine.mayOpen pid then (.error (.system .tooManyOpen), machine)
  else
    match world.appendText path text with
    | .error error => (.error error, machine)
    | .ok world => (.ok (), machine.setWorld pid world)

/-- A pipe takes two descriptors. -/
def openPipe (machine : Machine)
    (pid : Pid) : Except Errno ((Descriptor × Descriptor) × Machine) :=
  let pipe := machine.pipes.size
  let (reader, half) :=
    { machine with pipes := machine.pipes.push ByteArray.empty }.openChannel pid
      (.reader pipe)
  let (writer, whole) := half.openChannel pid (.writer pipe)
  if machine.mayOpen pid && half.mayOpen pid then .ok ((reader, writer), whole)
  else .error .tooManyOpen

def duplicate (machine : Machine) (me : MachineProcess)
    (source target : Descriptor) : Except Errno (Unit × Machine) :=
  match machine.openedBy? me.pid source with
  | none => .error .badDescriptor
  | some (number, _) =>
    if me.descriptorLimit ≤ target then .error .badDescriptor
    else .ok ((), machine.update me.pid fun process =>
      process.setInherited target number)

/-- A process limits its own descriptors, or those of another one. -/
def limitDescriptors (machine : Machine) (pid : Pid) (limit : Nat) :
    Except Errno (Unit × Machine) :=
  match machine.process? pid with
  | none => .error .noProcess
  | some _ =>
    .ok ((), machine.update pid fun process =>
      { process with descriptorLimit := limit })

/-- A pipe holds this many bytes. -/
def pipeCapacity : Nat := 65536

/-- As many bytes as this go into a pipe at once or not at all. -/
def pipeUnit : Nat := 4096

def setWritten (machine : Machine) (pid : Pid) (written : Nat) : Machine :=
  machine.update pid fun process => { process with written }

/-- Writing to a pipe takes as long as it is full.  When nobody reads from it,
writing brings a signal and an error. -/
def writePipe (machine : Machine) (process : MachineProcess) (pipe : Nat)
    (bytes : ByteArray) : Outcome (Except Errno Unit) :=
  if !machine.hasOpen (.reader pipe) then
    .answered (.error .brokenPipe)
      ((machine.setWritten process.pid 0).deliver process.pid .pipe)
  else
    let rest := bytes.extract process.written bytes.size
    let held := machine.pipes.getD pipe ByteArray.empty
    let room := pipeCapacity - held.size
    let append (more : ByteArray) : Machine :=
      { machine with
        pipes := machine.pipes.modify pipe fun held => held ++ more }
    if rest.size ≤ room then
      .answered (.ok ()) ((append rest).setWritten process.pid 0)
    else if room = 0 || bytes.size ≤ pipeUnit then .waiting
    else
      .advanced ((append (rest.extract 0 room)).setWritten process.pid
        (process.written + room))

def write (machine : Machine) (process : MachineProcess)
    (descriptor : Descriptor) (bytes : ByteArray) :
    Outcome (Except Errno Unit) :=
  match machine.openedBy? process.pid descriptor with
  | none => .answered (.error .badDescriptor) machine
  | some (number, file) =>
    match file.channel with
    | .sink sink =>
      .answered (.ok ()) { machine with
        sinks := machine.sinks.modify sink fun old => old ++ bytes }
    | .null => .answered (.ok ()) machine
    | .directory | .reader _ | .file _ .input =>
      .answered (.error .badDescriptor) machine
    | .writer pipe => machine.writePipe process pipe bytes
    | .file content .append =>
      .answered (.ok ())
        (machine.writeFile content (machine.files.read content ++ bytes))
    | .file content .output =>
      let written := overwrite (machine.files.read content) file.offset bytes
      .answered (.ok ())
        ((machine.writeFile content written).setOffset number
          (file.offset + bytes.size))

/-- Reading an empty pipe takes as long as somebody may write to it. -/
def read (machine : Machine) (pid : Pid) (descriptor : Descriptor)
    (limit : Nat) : Outcome (Except Errno ByteArray) :=
  match machine.openedBy? pid descriptor with
  | none => .answered (.error .badDescriptor) machine
  | some (number, file) =>
    match file.channel with
    | .null => .answered (.ok ByteArray.empty) machine
    | .directory => .answered (.error .isDirectory) machine
    | .sink _ | .writer _ | .file _ .output | .file _ .append =>
      .answered (.error .badDescriptor) machine
    | .file content .input =>
      let piece :=
        (machine.files.read content).extract file.offset (file.offset + limit)
      .answered (.ok piece)
        (machine.setOffset number (file.offset + piece.size))
    | .reader pipe =>
      let held := machine.pipes.getD pipe ByteArray.empty
      if held.isEmpty && machine.hasOpen (.writer pipe) then .waiting
      else
        let pipes :=
          machine.pipes.modify pipe fun held => held.extract limit held.size
        .answered (.ok (held.extract 0 limit)) { machine with pipes }

/-- Appending goes on at the end of a file. -/
def fileStatus (machine : Machine) (pid : Pid)
    (descriptor : Descriptor) : Option FileStatus :=
  match machine.openedBy? pid descriptor with
  | some (_, ⟨.file number operator, offset⟩) =>
    let size := (machine.files.read number).size
    let reached := if operator = .append then size else offset
    some { number, size, offset := reached }
  | _ => none

/-- Makes a child that goes on with a task.  It has what its parent has. -/
def fork (machine : Machine) (parent : MachineProcess)
    (task : Task) : Pid × Machine :=
  let child : MachineProcess :=
    { parent with
      pid := machine.nextPid, parent := parent.pid, phase := .running,
      pending := []
      news := none, written := 0, tired := false, activity := task.body }
  (machine.nextPid,
    { machine with
      nextPid := machine.nextPid + 1,
      processes := machine.processes ++ [child] })

/-- How many programs may be found in turn: each but the last is a script that
wants to be run by the next one. -/
def launchDepth : Nat := 6

/-- Opens a file as a program.  Nobody may be writing to it. -/
def openProgram (machine : Machine) (world : World)
    (path : String) : Except Errno Node :=
  match if path.isEmpty then .error .accessDenied
    else (world.lookup path).mapError errnoOf with
  | .error errno => .error errno
  | .ok (.node _ (.file true number)) =>
    if machine.isBeingWritten number then .error .textBusy
    else .ok (.file true number)
  | .ok (.node _ (.program program)) => .ok (.program program)
  | .ok _ => .error .accessDenied
where
  errnoOf : FileError → Errno
    | .system errno => errno
    | _ => .invalidArgument

/-- The program that a file leads to, and its arguments.  A script wants to be
run by the program that its first line names. -/
def programFor (machine : Machine)
    (world : World) : (depth : Nat) → Node → (path : String) →
    (arguments : List String) → Except Errno (Program × List String)
  | 0, _, _, _ => .error .tooManyLinks
  | depth + 1, .file _ number, path, arguments => do
    match ScriptHead.read? (world.files.read number) with
    | none => .error .execFormat
    | some head =>
      let next ← machine.openProgram world head.program
      programFor machine world depth next head.program
        (head.program :: (head.argument.toList ++ (path :: arguments.drop 1)))
  | _, .program program, _, arguments => .ok (program, arguments)
  | _, _, _, _ => .error .accessDenied

/-- Turns a process into a program. -/
def execute (machine : Machine) (process : MachineProcess) (path : String)
    (arguments : List String) : Outcome Errno :=
  let world := machine.worldOf process
  let found := (machine.openProgram world path).bind fun node =>
    machine.programFor world launchDepth node path arguments
  match found with
  | .error errno => .answered errno machine
  | .ok (program, arguments) =>
    .replaced (program.main arguments)
      (machine.update process.pid fun process =>
        { process.closeOwn with signals := process.signals.forProgram })

/-- How the end of a child looks to somebody who knows signals by their names
only. -/
def answerOfEnd (child : Pid) : ProcessEnd → WaitAnswer
  | .exited status => .changed child (.exited status)
  | .killed number =>
    match Signal.ofNumber? number with
    | some signal => .changed child (.killed signal)
    | none => .failed .invalidArgument

/-- A look at a child.  A child that has finished is forgotten by it. -/
def wait (machine : Machine) (me child : Pid)
    (mode : WaitMode) : Outcome WaitAnswer :=
  match machine.process? child with
  | none => .answered (.failed .noChild) machine
  | some process =>
    if process.parent != me then .answered (.failed .noChild) machine
    else
      match process.phase, process.news, mode with
      | .finished outcome, _, _ =>
        .answered (answerOfEnd child outcome) (machine.forget child)
      | _, some (.stopped signal), _ =>
        .answered (.changed child (.stopped signal))
          (machine.update child fun process => { process with news := none })
      | _, some state, .poll =>
        .answered (.changed child state)
          (machine.update child fun process => { process with news := none })
      | _, _, .poll => .answered .noChange machine
      | _, _, .block => .waiting

/-- Waits for the end of a child, unless a signal comes first. -/
def awaitChild (machine : Machine) (me : MachineProcess) (child : Pid)
    (interruptible : Bool) : Outcome (Except Errno ProcessEnd) :=
  match machine.process? child with
  | none => .answered (.error .noChild) machine
  | some process =>
    if process.parent != me.pid then .answered (.error .noChild) machine
    else
      match process.phase with
      | .finished outcome => .answered (.ok outcome) (machine.forget child)
      | _ =>
        if interruptible && !me.signals.noted.isEmpty then
          .answered (.error .interrupted) machine
        else .waiting

/-- A process puts itself or a child into a group: into a new one of its own, or
into one that is there. -/
def joinGroup (machine : Machine)
    (me pid group : Pid) : Except Errno (Unit × Machine) :=
  match machine.process? pid with
  | none => .error .noProcess
  | some process =>
    if pid != me && process.parent != me then .error .noProcess
    else if group != pid && (machine.members group).isEmpty then
      .error .operationNotPermitted
    else .ok ((), machine.update pid fun process => { process with group })

/-- Changes the signal handling of a process. -/
def withSignals {α : Type} (machine : Machine) (process : MachineProcess)
    (change : SignalState → α × SignalState) : Outcome α :=
  let (value, signals) := change process.signals
  .answered value (machine.update process.pid fun process =>
    { process with signals })

/-- The device is no terminal. -/
def noTerminal : Errno := ⟨25⟩

/-- Meets a call of a process. -/
def perform (machine : Machine)
    (process : MachineProcess) : (call : Call) → Outcome call.Reply
  | .observe => .answered (machine.worldOf process) machine
  | .clock => .answered machine.time machine
  | .sleepUntil time => if machine.time < time then .waiting
      else .answered () machine
  | .changeDirectory path =>
    match (machine.worldOf process).enter path with
    | .ok world => .answered (.ok ()) (machine.setWorld process.pid world)
    | .error error => .answered (.error error) machine
  | .openFile operator path =>
    let (reply, machine) :=
      machine.openFile process.pid (machine.worldOf process) operator path
    .answered reply machine
  | .appendText path text =>
    let (reply, machine) :=
      machine.appendText process.pid (machine.worldOf process) path text
    .answered reply machine
  | .openPipe => .ofResult machine (machine.openPipe process.pid)
  | .close descriptor =>
    .answered () (machine.update process.pid fun process =>
      process.drop descriptor)
  | .duplicate source target =>
    .ofResult machine (machine.duplicate process source target)
  | .write descriptor bytes => machine.write process descriptor bytes
  | .read descriptor limit => machine.read process.pid descriptor limit
  | .fileStatus descriptor =>
    .answered (machine.fileStatus process.pid descriptor) machine
  | .fork task =>
    let (child, machine) := machine.fork process task
    .answered (.ok child) machine
  | .execute path arguments => machine.execute process path arguments
  | .wait pid mode => machine.wait process.pid pid mode
  | .awaitChild pid interruptible =>
    machine.awaitChild process pid interruptible
  | .signalGroup group signal =>
    .ofResult machine ((machine.deliverGroup group signal).map fun machine =>
      ((), machine))
  | .sendSignal target number =>
    .ofResult machine
      ((machine.deliverAll (machine.targets process target) number).map
      fun machine => ((), machine))
  | .ownPid => .answered process.pid machine
  | .parentPid => .answered process.parent machine
  | .ownGroup => .answered process.group machine
  | .joinGroup pid group =>
    .ofResult machine (machine.joinGroup process.pid pid group)
  | .giveTerminal _ => .answered (.error noTerminal) machine
  | .setForeground group =>
    machine.withSignals process fun signals =>
      ((), { signals with foreground := group })
  | .takeChildEvent => machine.withSignals process SignalState.takeChildEvent
  | .takeInterrupt => machine.withSignals process SignalState.takeInterrupt
  | .installRelay =>
    machine.withSignals process (SignalState.install fun _ => none)
  | .uninstallRelay relay =>
    machine.withSignals process fun signals => ((), signals.uninstall relay)
  | .resetSignals =>
    machine.withSignals process fun signals => ((), signals.resetForChild)
  | .setDisposition signal disposition =>
    machine.withSignals process fun signals =>
      (signals.dispositions signal, signals.setDisposition signal disposition)
  | .takeNoted => machine.withSignals process SignalState.takeNoted
  | .setEnvironment environment =>
    .answered () (machine.update process.pid fun process =>
      { process with environment })
  | .limitDescriptors pid limit =>
    .ofResult machine (machine.limitDescriptors pid limit)
  | .hang => .waiting

end Machine

end JobShell
