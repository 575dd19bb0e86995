import JobShell.Text.Numeral
import JobShell.Text.Seconds
import JobShell.Files.Search
import JobShell.Builtin.Basic
import JobShell.Job.Control

/-!
# Running builtin commands

Each builtin works on the session and writes its output to a descriptor.  The
number of its arguments is checked before it begins.
-/

namespace JobShell

inductive Dispatch where
  | ran (status : Int)
  | notBuiltin
  deriving DecidableEq, Repr

namespace Shell

/-- Goes to a directory, which is named without links and dots from then on. -/
def changeDirectory (target : String) : Shell (Except FileError String) := do
  let world ← Activity.observe
  match world.canonicalize target with
  | .error error => pure (.error error)
  | .ok path =>
    if !world.isDirectory path then pure (.error .notDirectory)
    else
      match ← Activity.changeDirectory path with
      | .error error => pure (.error error)
      | .ok () =>
        modify fun session =>
          match world.currentDirectory with
          | .ok left =>
            { session with
              directories :=
                { session.directories with previous := some left } }
          | .error _ => session
        pure (.ok path)

/-- The serial that an argument names, with or without a percent sign. -/
def serialOf (command argument : String) : Shell Nat :=
  let digits := match argument.toList with
    | '%' :: digits => String.ofList digits
    | _ => argument
  match Text.parseWord64? digits with
  | some serial => pure serial
  | none => throw (.runtime command (.noSuchJob argument))

end Shell

namespace Builtin

open Shell

def runPwd (out : Descriptor) : Shell Int := do
  match (← Activity.observe).currentDirectory with
  | .ok directory => print out directory; pure 0
  | .error error => throw (.file error)

/-- Where `cd` goes, and whether it says so. -/
def cdTarget (argument : Option String) : Shell (String × Bool) := do
  match argument with
  | none => pure ((← get).directories.home, false)
  | some "-" =>
    match (← get).directories.previous with
    | some previous => pure (previous, true)
    | none => throw (.runtime "cd" .noPreviousDirectory)
  | some directory => pure ((← Activity.observe).expandTilde directory, false)

def runCd (argument : Option String) (out : Descriptor) : Shell Int := do
  let (target, announced) ← cdTarget argument
  match ← changeDirectory target with
  | .error error => throw (.runtime "cd" (.unreachable target error))
  | .ok path =>
    if announced then print out ((← Activity.observe).tildify path)
    pure 0

/-- A number filled with spaces in front up to five places. -/
def padNumber (number : Nat) : String :=
  let digits := toString number
  String.ofList (List.replicate (5 - digits.length) ' ') ++ digits

def historyLines (entries : List String) : List String :=
  entries.mapIdx fun place entry => padNumber (place + 1) ++ "  " ++ entry

def runHistory (out : Descriptor) : Shell Int := do
  (historyLines (← get).history.entries).forM (print out)
  pure 0

def runQuit : Shell Int := do
  modify fun session => { session with quitRequested := true }
  pure (← get).lastStatus

def runJobs (out : Descriptor) : Shell Int := do
  let finished ← reap
  finished.forM fun job => print out job.display
  (← get).jobs.jobs.forM fun job => print out job.display
  pure 0

def runBg (argument : String) (out : Descriptor) : Shell Int := do
  let job ← resumeBackground (← serialOf "bg" argument)
  print out ("[" ++ toString job.serial ++ "]+ " ++ job.command ++ " &")
  pure 0

def runFg (argument : String) (out : Descriptor) : Shell Int := do
  let serial ← serialOf "fg" argument
  let job ← Shell.job "fg" serial
  print out job.command
  match ← waitFor serial true with
  | .exited status => pure status
  | .stopped serial status =>
    match (← get).jobs.get? serial with
    | some job => print out ("\n" ++ job.display)
    | none => pure ()
    pure status

def runKill (argument : String) : Shell Int := do
  signalJob (← serialOf "kill" argument) .term
  pure 0

def runEcho (words : List String) (out : Descriptor) : Shell Int := do
  print out (" ".intercalate words)
  pure 0

/-- An interruption is looked for this often during a sleep: every 50
milliseconds. -/
def sleepSlice : Nat := 50000000

/-- Sleeps until `interval` has passed since `started`, slice by slice. -/
def sleepOn (started interval : Nat) : (slices : Nat) → Activity Int
  | 0 => Activity.hang
  | slices + 1 => do
    let now ← Activity.clock
    let left := interval - (now - started)
    if left = 0 then pure 0
    else
      Activity.sleepUntil (now + min left sleepSlice)
      if ← Activity.takeInterrupt then pure (128 + Signal.int.number)
      else sleepOn started interval slices

def runSleep (argument : String) : Shell Int := do
  match Text.parseSeconds? argument with
  | none => throw (.runtime "sleep" (.badInterval argument))
  | some interval =>
    discard Activity.takeInterrupt
    let started ← Activity.clock
    sleepOn started interval (interval / sleepSlice + 2)

/-- Runs a builtin with arguments of which there are as many as it takes. -/
def run (builtin : Builtin) (arguments : List String)
    (out : Descriptor) : Shell Int :=
  match builtin with
  | pwd => runPwd out
  | cd => runCd arguments.head? out
  | history => runHistory out
  | quit | exit => runQuit
  | jobs => runJobs out
  | bg => runBg (arguments.headD "") out
  | fg => runFg (arguments.headD "") out
  | kill => runKill (arguments.headD "")
  | echo => runEcho arguments out
  | sleep => runSleep (arguments.headD "")

/-- Runs the builtin that the first word names. -/
def dispatch (words : List String) (out : Descriptor) : Shell Dispatch :=
  match words with
  | [] => pure .notBuiltin
  | name :: arguments =>
    match ofName? name with
    | none => pure .notBuiltin
    | some builtin =>
      match builtin.violated? words.length with
      | some bound => throw (.arity name bound words.length)
      | none => do
        let status ← builtin.run arguments out
        pure (.ran status)

end Builtin

end JobShell
