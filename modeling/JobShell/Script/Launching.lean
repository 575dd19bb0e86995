import JobShell.Script.Running

/-!
# Launching programs from scripts

A name without a slash is looked for in the directories of the search path; what
is taken is the first file that may be executed.
-/

namespace JobShell.Script.Launching

open Run

/-- The paths that a name may stand for. -/
def candidates (state : State) (name : String) : List String :=
  if name.toList.contains '/' then [name]
  else
    (Path.splitSearch ((state.value? "PATH").getD "")).map fun directory =>
      Path.join directory name

/-- The paths from the first program on, or why there is none. -/
def search (world : World) (errno : Errno) :
    List String → Except Errno (List String)
  | [] => .error errno
  | path :: rest =>
    match world.lookup path with
    | .ok (.node _ node) =>
      if node.isExecutableFile then .ok (path :: rest)
      else search world .accessDenied rest
    | .ok _ => search world .accessDenied rest
    | .error (.system other) =>
      search world (if other = .noEntry || other =
        .notDirectory then errno else other) rest
    | .error _ => search world errno rest

/-- The paths under which a command may be launched; a name with a slash is
taken as it is. -/
def find (name : String) : Run (Except Errno (List String)) := do
  let paths := candidates (← get) name
  if name.toList.contains '/' then pure (.ok paths)
  else pure (search (← Activity.observe) .noEntry paths)

def notFound : String := "not found"

/-- The status when a command is not there. -/
def missingStatus : Int := 127

/-- The interpreter of files that do not say what is to run them. -/
def usualInterpreter : String := "/bin/sh"

/-- Becomes a program. -/
def becomeOne (path : String) (arguments : List String) : Activity Errno := do
  let errno ← Activity.execute path arguments
  if errno = .execFormat && path != usualInterpreter then
    Activity.execute usualInterpreter
      (usualInterpreter :: path :: arguments.drop 1)
  else pure errno

/-- Becomes the first program that can be launched. -/
def becomeFirst (arguments : List String)
    (errno : Errno) : List String → Activity Errno
  | [] => pure errno
  | path :: rest => do
    let other ← becomeOne path arguments
    becomeFirst arguments
      (if other = .noEntry || other = .notDirectory then errno else other) rest

/-- The status of an attempt to launch a program. -/
def failedStatus (errno : Errno) : Int :=
  if [Errno.tooManyLinks, .nameTooLong, .noEntry,
    .notDirectory].contains errno then missingStatus
  else 126

/-- Turns the process into a program; there is a status only when that fails. -/
def become (paths arguments : List String) : Run Int := do
  Activity.closeAll (← putAsideNow)
  Activity.setEnvironment (← environment)
  let errno ← becomeFirst arguments .noEntry paths
  warn (arguments.headD "" ++ ": " ++ wording notFound (.system errno))
  throw (.leave (failedStatus errno))

/-- Runs a program: in the process itself when nothing comes after it, else in a
child. -/
def launch (last : Bool) (name : String)
    (arguments : List String) : Run Int := do
  match ← find name with
  | .error errno =>
    warn (name ++ ": " ++ wording notFound (.system errno))
    pure missingStatus
  | .ok paths =>
    if last then become paths arguments
    else
      let child ← start (.program paths arguments)
        { input := none, output := none, unused := ← putAsideNow,
          background := false }
      awaitStatus child

end JobShell.Script.Launching
