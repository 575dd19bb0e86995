import JobShell.Builtin.Run

/-!
# Stages of a pipeline

A stage is a command that runs in a child of its own.  Its redirections are
opened, and its program is looked up, before the child is made.
-/

namespace JobShell

namespace Shell

/-- Tells the user of a failure; gives the status that it stands for. -/
def report (failure : Failure) : Shell Int := do
  Activity.say .standardError ("aspsh: " ++ failure.message)
  pure failure.status

def openRedirection (redirection : Redirection) : Shell Descriptor := do
  match ← Activity.openFile redirection.operator redirection.file with
  | .ok descriptor => pure descriptor
  | .error error => throw (.runtime redirection.file (.unusable error))

/-- Opens redirections in turn, each with the descriptor that it is for.  When
one of them fails, those before it are closed again. -/
def openRedirections (opened : List (Descriptor × Descriptor)) :
    List Redirection → Shell (List (Descriptor × Descriptor))
  | [] => pure opened
  | redirection :: rest => do
    match ← attempt (openRedirection redirection) with
    | .ok descriptor =>
      openRedirections (opened ++ [(redirection.target, descriptor)]) rest
    | .error failure =>
      Activity.closeAll (opened.map Prod.snd)
      throw failure

def hasNul (text : String) : Bool := text.toList.contains '\x00'

/-- The program of a command, and its arguments. -/
def prepare (command : Command) : Shell Launch := do
  let program := command.program
  let world ← Activity.observe
  let found := if program.toList.contains '/' then some program
    else world.findProgram program
  match found with
  | none => throw (.launch program .notFound)
  | some path =>
    if hasNul path || command.arguments.any hasNul then
      throw (.launch program .nulInArgument)
    else pure { path, arguments := command.arguments }

def prepareIfNeeded (command : Command) : Shell (Option Launch) := do
  if isBuiltin command.program then pure none
  else pure (some (← prepare command))

/-- Puts a child into its group; the child does the same, so that neither has to
wait for the other. -/
def enterGroup (child : Pid) (group : Option Pid) : Shell Unit := do
  if (← get).terminal.ownGroups then
    discard (Activity.joinGroup child (group.getD child))

/-- Makes the child for a stage, and closes what only the child uses. -/
def spawn (command : Command) (input output : Option Descriptor)
    (group : Option Pid) (background : Bool) : Shell Pid := do
  let outcome ← attempt (do
    let launch ← prepareIfNeeded command
    let redirections ← openRedirections [] command.redirections
    let wiring : Wiring := { input, output, redirections }
    let forked ← Activity.fork
      (.stage (← get) command launch wiring group background)
    Activity.closeAll (redirections.map Prod.snd)
    match forked with
    | .ok child => enterGroup child group; pure child
    | .error errno => throw (.system errno))
  Activity.closeAll (input.toList ++ output.toList)
  ofOutcome outcome

end Shell

namespace Stage

/-- Puts open files in the place of a child's own, one after the other. -/
def duplicateAll : List (Descriptor × Descriptor) → Activity (Except Errno Unit)
  | [] => pure (.ok ())
  | (target, source) :: rest => do
    match ← Activity.duplicate source target with
    | .ok () => duplicateAll rest
    | .error errno => pure (.error errno)

/-- Pipes come first, so that redirections win over them. -/
def wire (wiring : Wiring) : Activity (Except Errno Unit) :=
  duplicateAll
    ((wiring.input.toList.map fun source =>
        (Descriptor.standardInput, source)) ++
      (wiring.output.toList.map fun source =>
        (Descriptor.standardOutput, source)) ++
      wiring.redirections)

def complain (program text : String) : Activity Unit :=
  Activity.say .standardError ("aspsh: " ++ program ++ ": " ++ text)

/-- A builtin in a child works on the child's copy of the session. -/
def runBuiltin (session : Session) (command : Command) : Activity Int := do
  let (outcome, _) ←
    (Builtin.dispatch command.arguments .standardOutput).run session
  match outcome with
  | .ok (.ran status) => pure status
  | .ok .notBuiltin => pure 127
  | .error failure =>
    Activity.say .standardError ("aspsh: " ++ failure.message)
    pure failure.status

/-- Becomes another program; there is a status only when that fails. -/
def become (command : Command) (launch : Launch) : Activity Int := do
  let errno ← Activity.execute launch.path launch.arguments
  complain command.program errno.description
  pure (if errno = .noEntry then 127 else 126)

/-- What the child of a stage does. -/
def body (session : Session) (command : Command) (launch : Option Launch)
    (wiring : Wiring) (group : Option Pid)
    (background : Bool) : Activity Int := do
  if session.terminal.ownGroups then
    let me ← Activity.ownPid
    let group := group.getD me
    discard (Activity.joinGroup me group)
    if !background && session.terminal.interactive then
      discard (Activity.giveTerminal group)
  Activity.resetSignals
  match ← wire wiring with
  | .error errno =>
    complain command.program (Failure.system errno).message
    pure 1
  | .ok () =>
    match launch with
    | none => runBuiltin session command
    | some launch => become command launch

end Stage

end JobShell
