import JobShell.Theme
import JobShell.Interpreter

/-!
# The front

The front takes lines from the user.  It gathers the lines of a command that
goes on over several of them, hands commands to the interpreter, and shows what
has gone wrong.
-/

namespace JobShell

/-- What the front asks of the interpreter, and what it shows. -/
inductive Request where
  | parse (line : String)
  | finish
  | discard
  | compile
  | execute
  | appendHistory (line : String)
  | shouldQuit
  | notifications
  | information
  | shutdown
  | showPrompt (text : String)
  | tell (line : String)
  | complain (line : String)
  deriving DecidableEq, Repr

namespace Request

abbrev Reply : Request → Type
  | parse _ => Except Failure Reading
  | finish => Except Failure Reading
  | discard => Unit
  | compile => Except Failure Unit
  | execute => Except Failure Int
  | appendHistory _ => Unit
  | shouldQuit => Bool
  | notifications => List String
  | information => String
  | shutdown => Int
  | showPrompt _ => Unit
  | tell _ => Unit
  | complain _ => Unit

/-- How an interpreter meets a request. -/
def answer : (request : Request) → StateT Interpreter Activity request.Reply
  | parse line => fun interpreter => pure (interpreter.parse line)
  | finish => fun interpreter => pure interpreter.finish
  | discard => fun interpreter => pure ((), interpreter.discard)
  | compile => fun interpreter => pure interpreter.compile
  | execute => Interpreter.execute
  | appendHistory line => fun interpreter => do
      pure ((), ← interpreter.appendHistory line)
  | shouldQuit => fun interpreter =>
      pure (interpreter.session.quitRequested, interpreter)
  | notifications => Interpreter.notifications
  | information => fun interpreter => do
      pure (← interpreter.information, interpreter)
  | shutdown => Interpreter.shutdown
  | showPrompt text => fun interpreter => do
    let _ ← Activity.writeText .standardOutput text
    pure ((), interpreter)
  | tell line => fun interpreter => do
    pure (← Activity.say .standardOutput line, interpreter)
  | complain line => fun interpreter => do
    pure (← Activity.say .standardError line, interpreter)

end Request

/-- What to do next. -/
inductive Step where
  | prompt
  | goOn
  | quit
  deriving DecidableEq, Repr

/-- The lines of a command that is not complete yet, and how text is shown. -/
structure Front where
  display : Display
  pending : List String
  deriving DecidableEq, Repr

/-- A dialogue between the front and an interpreter. -/
abbrev Dialogue := Interaction Request Request.Reply

/-- Makes one request. -/
def Request.ask (request : Request) : Dialogue request.Reply := .ask request

namespace Dialogue

def parse (line : String) : Dialogue (Except Failure Reading) :=
  (Request.parse line).ask

def finish : Dialogue (Except Failure Reading) := Request.finish.ask

def discard : Dialogue Unit := Request.discard.ask

def compile : Dialogue (Except Failure Unit) := Request.compile.ask

def execute : Dialogue (Except Failure Int) := Request.execute.ask

def appendHistory (line : String) : Dialogue Unit :=
  (Request.appendHistory line).ask

def shouldQuit : Dialogue Bool := Request.shouldQuit.ask

def notifications : Dialogue (List String) := Request.notifications.ask

def information : Dialogue String := Request.information.ask

def shutdown : Dialogue Int := Request.shutdown.ask

def showPrompt (text : String) : Dialogue Unit := (Request.showPrompt text).ask

def tell (line : String) : Dialogue Unit := (Request.tell line).ask

def complain (line : String) : Dialogue Unit := (Request.complain line).ask

end Dialogue

namespace Front

def ofDisplay (display : Display) : Front := { display, pending := [] }

def showFailure (front : Front) (failure : Failure) : Dialogue Unit :=
  .complain (front.display.error Message.error.text ++ ": " ++ failure.message)

/-- The pending lines as one text. -/
def text (front : Front) : String := "\n".intercalate front.pending

/-- Closes the pending command and puts it into the history, unless it is
blank. -/
def closePending (front : Front) : Dialogue Front := do
  if !Text.allBlank front.text then Dialogue.appendHistory front.text
  pure { front with pending := [] }

/-- Compiles and executes what has been read. -/
def compileAndExecute : Dialogue (Except Failure Int) := do
  match ← Dialogue.compile with
  | .ok () => Dialogue.execute
  | .error failure => pure (.error failure)

/-- Runs the pending command, which is complete. -/
def runPending (front : Front) : Dialogue (Step × Front) := do
  let closed ← front.closePending
  if Text.allBlank front.text then pure (.prompt, closed)
  else do
    match ← compileAndExecute with
    | .ok _ => pure ()
    | .error failure => front.showFailure failure
    if ← Dialogue.shouldQuit then pure (.quit, closed)
    else pure (.prompt, closed)

/-- Gives up the pending command because of a failure. -/
def failPending (front : Front)
    (failure : Failure) : Dialogue (Step × Front) := do
  let closed ← front.closePending
  front.showFailure failure
  pure (.prompt, closed)

/-- Takes one more line. -/
def submit (front : Front) (line : String) : Dialogue (Step × Front) := do
  let front := { front with pending := front.pending ++ [line] }
  match ← Dialogue.parse line with
  | .ok .needsMore => pure (.goOn, front)
  | .ok .ready => front.runPending
  | .error failure => front.failPending failure

/-- The input has ended in the middle of a command. -/
def finish (front : Front) : Dialogue (Step × Front) := do
  match ← Dialogue.finish with
  | .ok _ => front.runPending
  | .error failure => front.failPending failure

/-- Forgets the pending command. -/
def discard (front : Front) : Dialogue Front := do
  Dialogue.discard
  pure { front with pending := [] }

/-- What stands in front of the cursor when a line is asked for. -/
def prompt (front : Front) : Dialogue String := do
  if front.pending.isEmpty then
    let information ← Dialogue.information
    pure (front.display.info information ++ " " ++
      front.display.prompt Message.prompt.text)
  else pure (front.display.prompt Message.continuation.text)

def showNotifications (front : Front) : Dialogue Unit := do
  let notices ← Dialogue.notifications
  notices.forM fun notice => Dialogue.tell (front.display.info notice)

/-- Gets ready for the next line: tells what is new, and asks for the line.
`prompts` says that the prompt is shown. -/
def askForLine (front : Front) (prompts : Bool) : Dialogue Unit := do
  front.showNotifications
  let prompt ← front.prompt
  if prompts then Dialogue.showPrompt prompt

/-- Takes lines up to the end of the input, or up to one that asks to quit. -/
def converse (front : Front) (prompts : Bool) : List String → Dialogue Unit
  | [] => do
    front.askForLine prompts
    if !front.pending.isEmpty then
      let _ ← front.finish
    Dialogue.tell ("\n" ++ front.display.warning Message.endOfInput.text)
  | line :: rest => do
    front.askForLine prompts
    match ← front.submit line with
    | (.quit, _) => Dialogue.tell (front.display.success Message.exit.text)
    | (_, front) => front.converse prompts rest

/-- A whole conversation; gives the exit status of the shell. -/
def session (front : Front) (prompts : Bool)
    (lines : List String) : Dialogue Int := do
  Dialogue.tell (front.display.success Message.welcome.text)
  front.converse prompts lines
  Dialogue.shutdown

end Front

end JobShell
