import JobShell.Text.Erasure
import JobShell.Front
import JobShell.Machine.Run

/-!
# The command line

The shell as a program: it reads its settings, starts an interpreter, and takes
the lines of its input.
-/

namespace JobShell.CommandLine

/-- Colours are shown to a terminal, and else only when a variable asks for
them. -/
def wantsColours (environment : Environment) : Bool :=
  match environment.get? "CLICOLOR_FORCE" with
  | some value => value != "0"
  | none => false

/-- The terminals that cannot edit lines. -/
def plainTerminals : List String := ["dumb", "cons25", "emacs"]

/-- A prompt is shown, even when the input is no terminal, for a terminal that
cannot edit lines. -/
def showsPrompts (environment : Environment) : Bool :=
  match environment.get? "TERM" with
  | some terminal => plainTerminals.contains (terminal.map Char.toLower)
  | none => false

/-- The lines of the input, after the erasing in each of them. -/
def inputLines? (input : String) : Option (List String) :=
  (Text.splitReturnLines input.toList).mapM fun line =>
    (Text.applyErasures? line).map String.ofList

/-- What the shell does once its settings are there. -/
def converse (settings : Settings) (environment : Environment)
    (lines : List String) : Activity Int := do
  let interpreter ← Interpreter.start settings
  let display : Display :=
    { theme := .named settings.theme, colours := wantsColours environment }
  let dialogue :=
    (Front.ofDisplay display).session (showsPrompts environment) lines
  let (status, _) ← (dialogue.expand Request.answer).run interpreter
  pure status

/-- What a run of the shell leaves: its exit status, its output and error
output, and the machine. -/
structure Result where
  status : Int
  output : ByteArray
  errors : ByteArray
  machine : Machine

/-- Complaints as lines of error output. -/
def complaintLines (complaints : List String) : ByteArray :=
  (String.join (complaints.map fun complaint => complaint ++ "\n")).toUTF8

/-- Runs the shell in a world, with a text as its input.  What it leaves running
is heard to the end.  There is no result when the settings or the input cannot
be read, or when the shell waits for what never comes. -/
def run (world : World) (input : String) : Option Result := do
  let (settings, historyComplaint, world) ← Settings.load? world
  let (logComplaint, world) := settings.prepareLog world
  let lines ← inputLines? input
  let (status, machine) ←
    Machine.run (converse settings world.environment lines)
      (Machine.start world)
  let (output, errors, machine) := (machine.close status).drain
  pure
    { status := status % 256, output, machine
      errors :=
        complaintLines (historyComplaint.toList ++ logComplaint.toList) ++
          errors }

end JobShell.CommandLine
