import JobShell.Script.Command

/-!
# Running statements

What a statement does is said with the help of a given way to run the statements
that it is made of.
-/

namespace JobShell.Script.Execution

open Run

/-- Remembers children in the background, the last one of which has the
status. -/
def noteChildren (pids : List Pid) : Run Int := do
  modify fun state =>
    { state with
      children := state.children ++ pids
      lastBackground := pids.getLast?.or state.lastBackground }
  pure 0

/-- Starts the stages of a pipeline; `input` is what the first of them reads. -/
def startStages (background tested : Bool) (input : Option Descriptor) :
    List Statement → Run (List Pid)
  | [] => pure []
  | stage :: rest => do
    let ends ← if rest.isEmpty then pure none else openStagePipe
    let output := ends.map Prod.snd
    let next := ends.map Prod.fst
    let child ← start (.statement stage tested)
      { input, output, unused := next.toList ++ (← putAsideNow), background }
    Activity.closeAll (input.toList ++ output.toList)
    pure (child :: (← startStages background tested next rest))
where
  openStagePipe : Run (Option (Descriptor × Descriptor)) := do
    match ← Activity.openPipe with
    | .ok ends => pure (some ends)
    | .error _ => fail "Pipe call failed"

def startAlone (body : Statement) (background tested : Bool) : Run Pid := do
  start (.statement body tested)
    { input := none, output := none, unused := ← putAsideNow, background }

/-- Whether a word fits one of some patterns. -/
def fitsAny (subject : List Char) : List Word → Run Bool
  | [] => pure false
  | word :: rest => do
    let pattern := Pattern.read (← Expansion.expand word)
    if pattern.fits subject then pure true else fitsAny subject rest

/-- Runs the first clause with a pattern that fits. -/
def selectClause (run : Runner) (manner : Manner) (subject : List Char) :
    List (List Word × Statement) → Run Int
  | [] => pure 0
  | (patterns, body) :: rest => do
    if ← fitsAny subject patterns then
      match body with
      | .nothing => pure 0
      | body => run manner body
    else selectClause run manner subject rest

def perform (run : Runner) (manner : Manner) : Statement → Run Int
  | .nothing => do pure (← get).status
  | .simple line assignments words redirects => do
    modify fun state => { state with line }
    runSimple run manner assignments words redirects
  | .sequence first second => do
    discard (run manner.notLast first)
    run manner second
  | .background (.pipeline stages) => do
      noteChildren (← startStages true false none stages)
  | .background body => do noteChildren [← startAlone body true false]
  | .andThen first second => do
    let status ← run .asTest first
    if status = 0 then run manner second else pure status
  | .orElse first second => do
    let status ← run .asTest first
    if status = 0 then pure status else run manner second
  | .negation body => do
    let status ← run .asTest body
    pure (if status = 0 then 1 else 0)
  | .pipeline stages => do
      awaitStatuses (← startStages false manner.tested none stages)
  | .subshell body => do
    if ← mayBecome manner then run manner body
    else awaitStatus (← startAlone body false manner.tested)
  | .redirected body redirects =>
    Redirection.within redirects (run manner.notLast body)
  | .choice condition consequence alternative => do
    let status ← run .asTest condition
    if status = 0 then run manner consequence
    else
      match alternative with
      | .nothing => pure 0
      | alternative => run manner alternative
  | .loop wanted condition body =>
    inLoop (goRound wanted (run .asTest condition)
      (run manner.notLast body) 0 turnLimit)
  | .forEach name words body => do
    let values ← match words with
      | some words => Expansion.expandWords words
      | none => pure (← get).arguments
    inLoop (goThrough name (run manner.notLast body) 0 values)
  | .select subject clauses => do
    let text ← Expansion.expandText subject
    selectClause run manner text.toList clauses
  | .define name body => do
    modify fun state =>
      { state with
        functions :=
          (name, body) :: state.functions.filter fun entry => entry.1 != name }
    pure 0

/-- Whether a failure of a statement may end the script. -/
def endsOnFailure : Statement → Bool
  | .simple .. | .subshell _ | .background _ | .pipeline _ => true
  | _ => false

/-- Runs a statement, and the actions of traps before and behind it. -/
def runWith (run : Runner) (manner : Manner)
    (statement : Statement) : Run Int := do
  runTraps run
  let status ← perform run manner statement
  setStatus status
  runTraps run
  if status != 0 && !manner.tested && endsOnFailure statement &&
    (← get).options.contains 'e' then
      throw (.leave status)
  else pure status

/-- Runs a statement, at most so many statements deep. -/
def runWithin : (depth : Nat) → Manner → Statement → Run Int
  | 0, _, _ => throw (.leave failureStatus)
  | depth + 1, manner, statement => runWith (runWithin depth) manner statement

/-- More than the depth of any statement. -/
def depthLimit : Nat := Nat.pow 2 60

def run : Runner := runWithin depthLimit

/-- The status that the end of a script stands for. -/
def statusAtEnd (state : State) : Except Escape Int → Int
  | .ok status => status
  | .error (.leave status) | .error (.giveBack status)
  | .error (.failure status) => status
  | .error _ => state.status

/-- Runs an action to the end of the process; the action for the end comes last,
and leaves the status as it is unless it exits itself. -/
def conclude (action : Run Int) (state : State) : Activity Int := do
  let (outcome, state) ← action.run.run state
  let status := statusAtEnd state outcome
  match state.trap? .exit with
  | none => pure status
  | some text =>
    let (outcome, _) ← (runText run .usual text).run.run
      { state.setTrap .exit none with status, trapStatus := some status }
    match outcome with
    | .error (.leave status) | .error (.failure status) => pure status
    | _ => pure status

end JobShell.Script.Execution
