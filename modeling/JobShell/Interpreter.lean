import JobShell.Line.Lexer
import JobShell.Line.Sequence
import JobShell.Completion.Cache
import JobShell.Execution.Sequence
import JobShell.Settings

/-!
# The interpreter

The interpreter takes a line in three steps: it reads tokens, compiles them to a
sequence, and executes the sequence.  Each step uses up what the step before it
has left.
-/

namespace JobShell

/-- Whether the lines read so far are a complete command. -/
inductive Reading where
  | ready
  | needsMore
  deriving DecidableEq, Repr

namespace Reading

/-- The code for a line: 0 when it is complete, 1 when it goes on, and -1 when
it is no command. -/
def code : Except Failure Reading → Int
  | .ok ready => 0
  | .ok needsMore => 1
  | .error _ => -1

end Reading

/-- `tokens` are waiting to be compiled, `compiled` is waiting to be
executed. -/
structure Interpreter where
  lexer : Lexer
  tokens : Option (List Token)
  compiled : Option Sequence
  session : Session
  completion : Completion

namespace Interpreter

/-- An interpreter for a session.  Completion words stay good for a number of
seconds. -/
def ofSession (session : Session) (completionSeconds : Nat) : Interpreter :=
  { lexer := .fresh, tokens := none, compiled := none, session
    completion := .withLifetime (completionSeconds * Text.nanosPerSecond) }

/-- An interpreter that has only just begun. -/
def detached (completionSeconds : Nat) : Activity Interpreter := do
  let group ← Activity.ownGroup
  let world ← Activity.observe
  pure (ofSession (.fresh group world.homeDirectory .empty) completionSeconds)

/-- An interpreter with a relay for signals and with the history of a file.  It
does without the relay, or without the history, when one is not to be had. -/
def start (settings : Settings) : Activity Interpreter := do
  let group ← Activity.ownGroup
  let relay := (← Activity.installRelay).toOption
  let world ← Activity.observe
  let history := match History.load world settings.historyFile with
    | .ok history => history
    | .error _ => .empty
  let session := Session.fresh group world.homeDirectory history
  pure (ofSession { session with relay } settings.completionSeconds)

/-- Takes one more line. -/
def parse (interpreter : Interpreter)
    (line : String) : Except Failure Reading × Interpreter :=
  match interpreter.lexer.feed line with
  | (.ok (.complete tokens), lexer) =>
    (.ok .ready,
      { interpreter with lexer, compiled := none, tokens := some tokens })
  | (.ok .needsMore, lexer) =>
    (.ok .needsMore, { interpreter with lexer, compiled := none })
  | (.error error, lexer) =>
    (.error (.line error), { interpreter with lexer, compiled := none })

/-- The input has ended. -/
def finish (interpreter : Interpreter) : Except Failure Reading × Interpreter :=
  match interpreter.lexer.finish with
  | (.ok tokens, lexer) =>
    (.ok .ready, { interpreter with lexer, tokens := some tokens })
  | (.error error, lexer) => (.error (.line error), { interpreter with lexer })

def compile (interpreter : Interpreter) : Except Failure Unit × Interpreter :=
  match interpreter.tokens with
  | none => (.error (.line .nothingToCompile), interpreter)
  | some tokens =>
    let interpreter := { interpreter with tokens := none }
    match Sequence.compile tokens with
    | .ok sequence => (.ok (), { interpreter with compiled := some sequence })
    | .error error => (.error (.line error), interpreter)

/-- Forgets what has been read but not executed. -/
def discard (interpreter : Interpreter) : Interpreter :=
  { interpreter with lexer := .fresh, tokens := none, compiled := none }

/-- Works on the session. -/
def inSession {α : Type} (interpreter : Interpreter) (action : Shell α) :
    Activity (Except Failure α × Interpreter) := do
  let (outcome, session) ← ExceptT.run action interpreter.session
  pure (outcome, { interpreter with session })

def execute (interpreter : Interpreter) :
    Activity (Except Failure Int × Interpreter) :=
  match interpreter.compiled with
  | none => pure (.error (.line .nothingToExecute), interpreter)
  | some sequence =>
    { interpreter with compiled := none }.inSession (Shell.execute sequence)

/-- The numbers of jobs for the line in front of the prompt. -/
def jobSummary (counts : Nat × Nat) : String :=
  match counts with
  | (0, 0) => ""
  | (running, 0) => " [" ++ toString running ++ " running]"
  | (0, stopped) => " [" ++ toString stopped ++ " stopped]"
  | (running, stopped) =>
    " [" ++ toString running ++ " running, " ++ toString stopped ++ " stopped]"

/-- The line in front of the prompt: the working directory and the jobs. -/
def information (interpreter : Interpreter) : Activity String := do
  let world ← Activity.observe
  let place := match world.currentDirectory with
    | .ok directory => world.tildify directory
    | .error _ => "?"
  pure (place ++ jobSummary interpreter.session.jobs.counts)

/-- What to complete at a position, and the candidates; nothing when the
position is inside a character. -/
def completeAt (interpreter : Interpreter) (line : String) (position : Nat) :
    Activity (Option (Nat × List String) × Interpreter) := do
  let world ← Activity.observe
  let now ← Activity.clock
  match interpreter.completion.completeLine? world now line position with
  | none => pure (none, interpreter)
  | some (answer, completion) =>
    pure (some answer, { interpreter with completion })

def modifyHistory (interpreter : Interpreter)
    (history : History) : Interpreter :=
  { interpreter with session := { interpreter.session with history } }

def previousEntry (interpreter : Interpreter) : String × Interpreter :=
  let (entry, history) := interpreter.session.history.previous
  (entry, interpreter.modifyHistory history)

def nextEntry (interpreter : Interpreter) : String × Interpreter :=
  let (entry, history) := interpreter.session.history.next
  (entry, interpreter.modifyHistory history)

/-- Adds a line to the history, and to its file. -/
def appendHistory (interpreter : Interpreter)
    (line : String) : Activity Interpreter := do
  let history := interpreter.session.history
  match history.record? line with
  | some (file, text) => Functor.discard (Activity.appendText file text)
  | none => pure ()
  pure (interpreter.modifyHistory (history.append line))

/-- The jobs that the user is to be told about, as lines. -/
def notifications (interpreter : Interpreter) :
    Activity (List String × Interpreter) := do
  let (outcome, interpreter) ← interpreter.inSession Shell.syncJobs
  match outcome with
  | .ok jobs => pure (jobs.map Job.display, interpreter)
  | .error _ => pure ([], interpreter)

/-- The end of a session: its jobs are told, and the relay is taken away. -/
def endSession : Shell Unit := do
  Shell.hangUpAll
  match (← get).relay with
  | some relay => Activity.uninstallRelay relay
  | none => pure ()
  modify fun session => { session with relay := none }

/-- Ends the session; gives the exit status of the shell. -/
def shutdown (interpreter : Interpreter) : Activity (Int × Interpreter) := do
  let (_, interpreter) ← interpreter.inSession endSession
  pure (interpreter.session.lastStatus, interpreter)

end Interpreter

end JobShell
