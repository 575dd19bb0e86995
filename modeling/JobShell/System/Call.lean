import JobShell.Session
import JobShell.Script.State
import JobShell.System.Interaction

/-!
# System calls

What the shell, and every program that it launches, can ask of the system.
-/

namespace JobShell

/-- A number under which a process knows an open file. -/
abbrev Descriptor := Nat

namespace Descriptor

def standardInput : Descriptor := 0
def standardOutput : Descriptor := 1
def standardError : Descriptor := 2

end Descriptor

/-- A program that is ready to be launched. -/
structure Launch where
  path : String
  arguments : List String
  deriving DecidableEq, Repr

/-- The open files that a child gets in place of the shell's own. -/
structure Wiring where
  input : Option Descriptor
  output : Option Descriptor
  redirections : List (Descriptor × Descriptor)
  deriving DecidableEq, Repr

namespace Wiring

def descriptors (wiring : Wiring) : List Descriptor :=
  wiring.input.toList ++ wiring.output.toList ++
    wiring.redirections.map Prod.snd

end Wiring

/-- What a child does.  A child of the shell runs one stage of a pipeline, or a
whole sequence; it begins with a copy of the session.  A child of a script
begins with a copy of the script's state. -/
inductive Task where
  | stage (session : Session) (command : Command) (launch : Option Launch)
      (wiring : Wiring) (group : Option Pid) (background : Bool)
  | subshell (session : Session) (sequence : Sequence)
  | script (state : Script.State) (work : Script.Work)
      (setup : Script.ChildSetup)

inductive WaitMode where
  /-- Only look. -/
  | poll
  /-- Wait until the process stops or has finished. -/
  | block
  deriving DecidableEq, Repr

/-- How a process has ended: with a status, or by the number of a signal. -/
inductive ProcessEnd where
  | exited (status : Int)
  | killed (signal : Nat)
  deriving DecidableEq, Repr

inductive SignalTarget where
  | process (pid : Pid)
  | group (group : Pid)
  /-- The group of the sender. -/
  | ownGroup
  deriving DecidableEq, Repr

/-- What is known of an open regular file: its number, its size, and the place
where reading or writing goes on. -/
structure FileStatus where
  number : Nat
  size : Nat
  offset : Nat
  deriving DecidableEq, Repr

inductive Call where
  /-- A look at the files, the working directory and the environment. -/
  | observe
  /-- The time in nanoseconds. -/
  | clock
  | sleepUntil (time : Nat)
  | changeDirectory (path : String)
  | openFile (operator : RedirectOp) (path : String)
  | appendText (path text : String)
  | openPipe
  | close (descriptor : Descriptor)
  | duplicate (source target : Descriptor)
  | write (descriptor : Descriptor) (bytes : ByteArray)
  /-- Reads what there is, up to a number of bytes; at the end of the file there
  is nothing. -/
  | read (descriptor : Descriptor) (limit : Nat)
  /-- The status of the regular file behind a descriptor; other things have
  none. -/
  | fileStatus (descriptor : Descriptor)
  | fork (task : Task)
  /-- Turns the process into another program; there is a reply only when that
  fails. -/
  | execute (path : String) (arguments : List String)
  | wait (pid : Pid) (mode : WaitMode)
  /-- Waits for the end of a child; a signal that is noted may break this
  off. -/
  | awaitChild (pid : Pid) (interruptible : Bool)
  | signalGroup (group : Pid) (signal : Signal)
  /-- Sends the signal of a number; the number 0 only asks whether it could be
  sent. -/
  | sendSignal (target : SignalTarget) (number : Nat)
  /-- The number of the process itself. -/
  | ownPid
  /-- The number of the process that has made this one. -/
  | parentPid
  /-- The group of the process itself. -/
  | ownGroup
  | joinGroup (pid group : Pid)
  | giveTerminal (group : Pid)
  | setForeground (group : Option Pid)
  | takeChildEvent
  | takeInterrupt
  | installRelay
  | uninstallRelay (relay : Relay)
  | resetSignals
  | setDisposition (signal : Signal) (disposition : Disposition)
  | takeNoted
  /-- Replaces the environment of the process. -/
  | setEnvironment (environment : Environment)
  /-- Lets a process have descriptors below a number only; those that it has
  stay open. -/
  | limitDescriptors (pid : Pid) (limit : Nat)
  /-- Waits for ever. -/
  | hang

namespace Call

abbrev Reply : Call → Type
  | observe => World
  | clock => Nat
  | sleepUntil _ => Unit
  | changeDirectory _ => Except FileError Unit
  | openFile .. => Except FileError Descriptor
  | appendText .. => Except FileError Unit
  | openPipe => Except Errno (Descriptor × Descriptor)
  | close _ => Unit
  | duplicate .. => Except Errno Unit
  | write .. => Except Errno Unit
  | read .. => Except Errno ByteArray
  | fileStatus _ => Option FileStatus
  | fork _ => Except Errno Pid
  | execute .. => Errno
  | wait .. => WaitAnswer
  | awaitChild .. => Except Errno ProcessEnd
  | signalGroup .. => Except Errno Unit
  | sendSignal .. => Except Errno Unit
  | ownPid => Pid
  | parentPid => Pid
  | ownGroup => Pid
  | joinGroup .. => Except Errno Unit
  | giveTerminal _ => Except Errno Unit
  | setForeground _ => Unit
  | takeChildEvent => Bool
  | takeInterrupt => Bool
  | installRelay => Except Errno Relay
  | uninstallRelay _ => Unit
  | resetSignals => Unit
  | setDisposition .. => Disposition
  | takeNoted => List Signal
  | setEnvironment _ => Unit
  | limitDescriptors .. => Except Errno Unit
  | hang => Empty

end Call

/-- What a process does until it has a result. -/
abbrev Activity := Interaction Call Call.Reply

/-- Makes one call. -/
def Call.ask (call : Call) : Activity call.Reply := .ask call

namespace Activity

def observe : Activity World := Call.observe.ask

def clock : Activity Nat := Call.clock.ask

def sleepUntil (time : Nat) : Activity Unit := (Call.sleepUntil time).ask

def changeDirectory (path : String) : Activity (Except FileError Unit) :=
  (Call.changeDirectory path).ask

def openFile (operator : RedirectOp)
    (path : String) : Activity (Except FileError Descriptor) :=
  (Call.openFile operator path).ask

def appendText (path text : String) : Activity (Except FileError Unit) :=
  (Call.appendText path text).ask

def openPipe : Activity (Except Errno (Descriptor × Descriptor)) :=
  Call.openPipe.ask

def close (descriptor : Descriptor) : Activity Unit :=
  (Call.close descriptor).ask

def closeAll (descriptors : List Descriptor) : Activity Unit :=
  descriptors.forM close

def duplicate (source target : Descriptor) : Activity (Except Errno Unit) :=
  (Call.duplicate source target).ask

def write (descriptor : Descriptor)
    (bytes : ByteArray) : Activity (Except Errno Unit) :=
  (Call.write descriptor bytes).ask

def writeText (descriptor : Descriptor)
    (text : String) : Activity (Except Errno Unit) :=
  write descriptor text.toUTF8

/-- Writes a line, whether or not it arrives. -/
def say (descriptor : Descriptor) (line : String) : Activity Unit :=
  discard (writeText descriptor (line ++ "\n"))

def read (descriptor : Descriptor)
    (limit : Nat) : Activity (Except Errno ByteArray) :=
  (Call.read descriptor limit).ask

/-- More pieces than any file has. -/
def pieceLimit : Nat := Nat.pow 2 64

/-- How much is read at once. -/
def pieceSize : Nat := 131072

/-- Reads up to the end of the file, piece by piece, and puts it behind what has
been read before. -/
def readOn (descriptor : Descriptor) (bytes : ByteArray) :
    (pieces : Nat) → Activity (Except Errno ByteArray)
  | 0 => pure (.ok bytes)
  | pieces + 1 => do
    match ← read descriptor pieceSize with
    | .error errno => pure (.error errno)
    | .ok piece =>
      if piece.isEmpty then pure (.ok bytes)
      else readOn descriptor (bytes ++ piece) pieces

def readAll (descriptor : Descriptor) : Activity (Except Errno ByteArray) :=
  readOn descriptor ByteArray.empty pieceLimit

def fileStatus (descriptor : Descriptor) : Activity (Option FileStatus) :=
  (Call.fileStatus descriptor).ask

def fork (task : Task) : Activity (Except Errno Pid) := (Call.fork task).ask

def execute (path : String) (arguments : List String) : Activity Errno :=
  (Call.execute path arguments).ask

def wait (pid : Pid) (mode : WaitMode) : Activity WaitAnswer :=
  (Call.wait pid mode).ask

def signalGroup (group : Pid) (signal : Signal) :
    Activity (Except Errno Unit) :=
  (Call.signalGroup group signal).ask

def awaitChild (pid : Pid) (interruptible : Bool) :
    Activity (Except Errno ProcessEnd) :=
  (Call.awaitChild pid interruptible).ask

def sendSignal (target : SignalTarget)
    (number : Nat) : Activity (Except Errno Unit) :=
  (Call.sendSignal target number).ask

def ownPid : Activity Pid := Call.ownPid.ask

def parentPid : Activity Pid := Call.parentPid.ask

def ownGroup : Activity Pid := Call.ownGroup.ask

def joinGroup (pid group : Pid) : Activity (Except Errno Unit) :=
  (Call.joinGroup pid group).ask

def giveTerminal (group : Pid) : Activity (Except Errno Unit) :=
  (Call.giveTerminal group).ask

def setForeground (group : Option Pid) : Activity Unit :=
  (Call.setForeground group).ask

def takeChildEvent : Activity Bool := Call.takeChildEvent.ask

def takeInterrupt : Activity Bool := Call.takeInterrupt.ask

def installRelay : Activity (Except Errno Relay) := Call.installRelay.ask

def uninstallRelay (relay : Relay) : Activity Unit :=
  (Call.uninstallRelay relay).ask

def resetSignals : Activity Unit := Call.resetSignals.ask

/-- Changes what the process does on a signal; gives what it did before. -/
def setDisposition (signal : Signal)
    (disposition : Disposition) : Activity Disposition :=
  (Call.setDisposition signal disposition).ask

def takeNoted : Activity (List Signal) := Call.takeNoted.ask

def setEnvironment (environment : Environment) : Activity Unit :=
  (Call.setEnvironment environment).ask

def limitDescriptors (pid : Pid) (limit : Nat) : Activity (Except Errno Unit) :=
  (Call.limitDescriptors pid limit).ask

/-- Never comes to a result. -/
def hang {α : Type} : Activity α := .call .hang Empty.elim

end Activity

/-- What the shell does: it works on its session, and may fail.  A failure
leaves the session as it has become. -/
abbrev Shell := ExceptT Failure (StateT Session Activity)

namespace Shell

/-- Runs an action and goes on also when it has failed. -/
def attempt {α : Type} (action : Shell α) : Shell (Except Failure α) :=
  ExceptT.lift (ExceptT.run action)

def ofOutcome {α : Type} : Except Failure α → Shell α
  | .ok value => pure value
  | .error failure => throw failure

def modifyJobs (change : JobTable → JobTable) : Shell Unit :=
  modify fun session => { session with jobs := change session.jobs }

/-- Writes a line of output; a line that does not arrive is a failure. -/
def print (descriptor : Descriptor) (line : String) : Shell Unit := do
  match ← Activity.writeText descriptor (line ++ "\n") with
  | .ok () => pure ()
  | .error errno => throw (.file (.system errno))

end Shell

end JobShell
