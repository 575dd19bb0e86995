import JobShell.History
import JobShell.Job.Table
import JobShell.System.Relay

/-!
# Sessions

Everything that the shell remembers from one line to the next.
-/

namespace JobShell

/-- `interactive` says that the shell hands its terminal to foreground jobs, and
`ownGroups` that each job gets a process group of its own.  Jobs without one are
in `shellGroup`. -/
structure TerminalControl where
  interactive : Bool
  ownGroups : Bool
  shellGroup : Pid
  deriving DecidableEq, Repr

namespace TerminalControl

/-- Jobs have groups, but no terminal is handed around. -/
def detached (shellGroup : Pid) : TerminalControl :=
  { interactive := false, ownGroups := true, shellGroup }

/-- A background shell keeps what it launches in its own group. -/
def subshell (shellGroup : Pid) : TerminalControl :=
  { interactive := false, ownGroups := false, shellGroup }

end TerminalControl

/-- `previous` is the directory that was left last, `home` the one to go to
when none is named. -/
structure Directories where
  previous : Option String
  home : String
  deriving DecidableEq, Repr

structure Session where
  jobs : JobTable
  terminal : TerminalControl
  directories : Directories
  history : History
  quitRequested : Bool
  lastStatus : Int
  relay : Option Relay
  deriving DecidableEq, Repr

namespace Session

def fresh (shellGroup : Pid) (home : String) (history : History) : Session :=
  { jobs := .empty
    terminal := .detached shellGroup
    directories := { previous := none, home }
    history
    quitRequested := false
    lastStatus := 0
    relay := none }

end Session

end JobShell
