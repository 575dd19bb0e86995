import JobShell.Text.Numeral
import JobShell.Files.Search
import JobShell.EnvFile

/-!
# Settings

Settings come from the environment, after an environment file has had its say.
-/

namespace JobShell

inductive EditMode where
  | vi
  | emacs
  deriving DecidableEq, Repr

/-- `completionSeconds` is how long completion words stay good. -/
structure Settings where
  directory : String
  theme : String
  historyFile : String
  editor : String
  logLevel : String
  logDirectory : String
  logsToError : Bool
  completionSeconds : Nat
  deriving DecidableEq, Repr

namespace Settings

def shellName : String := "aspsh"

def environmentFile : String := ".env.development"

/-- The directory for what belongs to the shell: below the home directory, or
below the one for temporary files. -/
def directoryIn (world : World) : String :=
  match world.environment.get? "HOME" with
  | some home => Path.join home ".config/aspsh"
  | none => Path.join ((world.environment.get? "TMPDIR").getD "/tmp") shellName

def standard (world : World) : Settings :=
  let directory := directoryIn world
  { directory
    theme := "default"
    historyFile := Path.join directory ".aspsh_history"
    editor := "emacs"
    logLevel := "info"
    logDirectory := Path.join directory "logs"
    logsToError := false
    completionSeconds := 30 }

def editMode (settings : Settings) : EditMode :=
  if settings.editor.map Char.toLower = "vi" then .vi else .emacs

/-- The settings that variables ask for. -/
def ofEnvironment (world : World) : Settings :=
  let base := standard world
  let value? (name : String) := world.environment.get? name
  let path (name fallback : String) :=
    ((value? name).map world.expandTilde).getD fallback
  { base with
    theme := (value? "ASPSH_THEME").getD base.theme
    editor := (value? "ASPSH_EDITOR").getD base.editor
    historyFile := path "ASPSH_HISTORY" base.historyFile
    logLevel := (value? "ASPSH_LOG_LEVEL").getD base.logLevel
    logDirectory := path "ASPSH_LOG_DIR" base.logDirectory
    logsToError := (value? "ASPSH_LOG_STDERR").isSome
    completionSeconds :=
      ((value? "ASPSH_COMPLETION_TTL").bind Text.parseWord64?).getD
        base.completionSeconds }

def historyDirectory? (settings : Settings) : Option String :=
  (Path.parent? settings.historyFile.toList).map String.ofList

/-- What is said when a directory cannot be made. -/
def complaint (what directory : String) (error : FileError) : String :=
  shellName ++ ": cannot create " ++ what ++ " directory " ++ directory ++
    ": " ++ error.message

/-- Makes a directory of the shell, or complains. -/
def prepare (world : World) (what directory : String) : Option String × World :=
  match world.makeTree directory with
  | (.ok (), world) => (none, world)
  | (.error error, world) => (some (complaint what directory error), world)

/-- Reads the settings and makes the directory of the history file.  A complaint
may come with them.  There are none when the environment file asks for a
variable that cannot be. -/
def load? (world : World) : Option (Settings × Option String × World) := do
  let world ← EnvFile.load? world environmentFile
  let settings := ofEnvironment world
  match settings.historyDirectory? with
  | none => pure (settings, none, world)
  | some directory =>
    let (complaint?, world) := prepare world "history" directory
    pure (settings, complaint?, world)

/-- Makes the directory of the log files. -/
def prepareLog (settings : Settings) (world : World) : Option String × World :=
  prepare world "log" settings.logDirectory

end Settings

end JobShell
