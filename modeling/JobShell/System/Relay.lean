import JobShell.Errno
import JobShell.Job.Basic

/-!
# The signal relay

While it is installed, the shell notes events of its children, hands terminal
signals on to the foreground group, and ignores what would stop it.  Taking the
relay away brings back what was there before.
-/

namespace JobShell

/-- What a process does on a signal. -/
inductive Disposition where
  | standard
  | ignore
  | noteChild
  | relay
  /-- Keeps the signal in mind. -/
  | note
  deriving DecidableEq, Repr

/-- The signal handling of a process.  `foreground` is the group that terminal
signals are handed on to, `noted` are the signals that are kept in mind. -/
structure SignalState where
  dispositions : Signal → Disposition
  childEvent : Bool
  interrupted : Bool
  foreground : Option Pid
  installed : Bool
  noted : List Signal

/-- An installed relay: the dispositions that it has replaced, latest first. -/
structure Relay where
  saved : List (Signal × Disposition)
  deriving DecidableEq, Repr

/-- What a signal leads to. -/
inductive Reaction where
  | nothing
  | act (action : Signal.Action)
  | forward (group : Pid)
  deriving DecidableEq, Repr

namespace SignalState

/-- At its start the shell ignores nothing but the loss of a reader. -/
def initial : SignalState :=
  { dispositions := fun signal => if signal = .pipe then .ignore else .standard
    childEvent := false, interrupted := false, foreground := none,
    installed := false
    noted := [] }

def setDisposition (state : SignalState) (signal : Signal)
    (disposition : Disposition) : SignalState :=
  { state with
    dispositions := fun other =>
      if other = signal then disposition else state.dispositions other }

/-- What the relay does on each signal that it cares for, in the order in which
it is installed. -/
def relayed : List (Signal × Disposition) :=
  [(.chld, .noteChild), (.int, .relay), (.tstp, .relay), (.quit, .ignore),
    (.ttin, .ignore), (.ttou, .ignore), (.pipe, .ignore)]

/-- Takes a relay away. -/
def uninstall (state : SignalState) (relay : Relay) : SignalState :=
  let restored :=
    relay.saved.foldl
      (fun state entry => state.setDisposition entry.1 entry.2) state
  { restored with foreground := none, installed := false }

/-- Sets the dispositions one after the other.  A signal may refuse; then all
that has been set is taken back. -/
def setAll (refused : Signal → Option Errno) (state : SignalState)
    (relay : Relay) :
    List (Signal × Disposition) → Except Errno Relay × SignalState
  | [] => (.ok relay, state)
  | (signal, disposition) :: rest =>
    match refused signal with
    | some errno => (.error errno, state.uninstall relay)
    | none =>
      setAll refused (state.setDisposition signal disposition)
        ⟨(signal, state.dispositions signal) :: relay.saved⟩ rest

/-- Installs a relay; there can be only one. -/
def install (refused : Signal → Option Errno) (state : SignalState) :
    Except Errno Relay × SignalState :=
  if state.installed then (.error .busy, state)
  else setAll refused { state with installed := true } ⟨[]⟩ relayed

/-- A signal arrives. -/
def receive (state : SignalState) (signal : Signal) : Reaction × SignalState :=
  match state.dispositions signal with
  | .standard => (.act signal.defaultAction, state)
  | .ignore => (.nothing, state)
  | .noteChild => (.nothing, { state with childEvent := true })
  | .relay =>
    match state.foreground with
    | some group => (.forward group, state)
    | none =>
      (.nothing, if signal =
        .int then { state with interrupted := true } else state)
  | .note => (.nothing, { state with noted := state.noted ++ [signal] })

def takeChildEvent (state : SignalState) : Bool × SignalState :=
  (state.childEvent, { state with childEvent := false })

def takeInterrupt (state : SignalState) : Bool × SignalState :=
  (state.interrupted, { state with interrupted := false })

def takeNoted (state : SignalState) : List Signal × SignalState :=
  (state.noted, { state with noted := [] })

/-- The signals of job control, which a launched program handles anew. -/
def jobControl : List Signal := [.int, .quit, .tstp, .ttin, .ttou, .chld, .pipe]

def resetForChild (state : SignalState) : SignalState :=
  jobControl.foldl
    (fun state signal => state.setDisposition signal .standard) state

/-- A new program cannot keep the handlers of the old one. -/
def forProgram (state : SignalState) : SignalState :=
  { state with
    dispositions := fun signal =>
      if state.dispositions signal = .ignore then .ignore else .standard
    childEvent := false, interrupted := false, foreground := none,
    installed := false
    noted := [] }

end SignalState

end JobShell
