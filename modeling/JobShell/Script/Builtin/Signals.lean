import JobShell.Script.Builtin.Basic

/-!
# Signals

The commands that send signals and that set actions for them.
-/

namespace JobShell.Script.Builtin

open Run

/-- The number of the first signal of the kind that has no name of its own. -/
def firstRealTime : Nat := 34

def lastSignal : Nat := 64

/-- A signal's name without the letters that all names begin with. -/
def signalName (signal : Signal) : String :=
  String.ofList (signal.name.toList.drop 3)

/-- How the signal of a number is listed. -/
def numberName (number : Nat) : String :=
  if number < firstRealTime then
    match (Signal.ofNumber? number).filter (· != .stkflt) with
    | some signal => signalName signal
    | none => toString number
  else
    let above := number - firstRealTime
    let below := lastSignal - number
    if above ≤ 15 then (if above = 0 then "RTMIN"
      else "RTMIN+" ++ toString above)
    else if below = 0 then "RTMAX"
    else "RTMAX-" ++ toString below

/-- The number of a signal that is given by its number or by its name. -/
def signalNumber? (text : String) : Option Nat :=
  match Text.parseWord64? text with
  | some number =>
    if number ≤ lastSignal && text.toList.head? != some '+' then
      some number else none
  | none =>
    let name := text.map Char.toUpper
    if name = "EXIT" then some 0
    else (List.range (lastSignal + 1)).find? fun number =>
      numberName number == name

def killUsage : String :=
  "Usage: kill [-s sigspec | -signum | -sigspec] [pid | job]... or\n" ++
    "kill -l [exitstatus]"

/-- The processes that an operand means. -/
def target (text : String) : Run SignalTarget := do
  match text.toList with
  | '-' :: digits =>
    let group ← number (String.ofList digits)
    pure (.group group)
  | _ =>
    let pid ← processNumber text
    pure (if pid = 0 then .ownGroup else .process pid)

def sendAll (signal : Nat) (status : Int) : List String → Run Int
  | [] => pure status
  | operand :: rest => do
    match ← Activity.sendSignal (← target operand) signal with
    | .ok () => sendAll signal status rest
    | .error errno =>
      warn (errno.text ++ "\n")
      sendAll signal 1 rest

def send (signal : Nat) (operands : List String) : Run Int :=
  if operands.isEmpty then fail killUsage else sendAll signal 0 operands

/-- Lists the signals, or the one that a status speaks of. -/
def listSignals (operands : List String) : Run Int := do
  match operands with
  | [] =>
    (List.range (lastSignal + 1)).forM fun number => say (numberName number)
    pure 0
  | text :: _ =>
    let status ← number text
    let signal := if status > 128 then status - 128 else status
    if 0 < signal && signal ≤ lastSignal then
      say (numberName signal)
      pure 0
    else fail ("invalid signal number or exit status: " ++ text)

/-- The signal that is asked for by its name or its number. -/
def wantedSignal (name : String) : Run Nat :=
  match (signalNumber? name).filter fun number =>
    number != 0 || name == "0" with
  | some number => pure number
  | none => fail ("invalid signal number or name: " ++ name)

/-- The signal that an option names by itself. -/
def namedOption? (argument : String) : Option Nat :=
  match argument.toList with
  | '-' :: name =>
    (signalNumber? (String.ofList name)).filter fun number =>
      number != 0 || name == ['0']
  | _ => none

def kill (arguments : List String) : Run Int := do
  match arguments with
  | [] => fail killUsage
  | first :: operands =>
    match namedOption? first with
    | some signal => send signal operands
    | none =>
      let (flags, operands) ← takeFlags ['l'] ['s'] arguments
      match (flags.lookup 'l').isSome, flags.lookup 's' with
      | true, none => listSignals operands
      | true, some _ => fail killUsage
      | false, some name => do send (← wantedSignal name) operands
      | false, none => send (Signal.number .term) operands

/-- Text in quotes that can be read again. -/
def inQuotes (text : String) : String :=
  "\x27" ++ "\x27\x22\x27\x22\x27".intercalate (text.splitOn "\x27") ++ "\x27"

def trapNumber : Trap → Nat
  | .exit => 0
  | .signal signal => signal.number

def trapName : Trap → String
  | .exit => "EXIT"
  | .signal signal => signalName signal

/-- Sets the action of one trap.  A signal that was ignored from the beginning
stays so. -/
def setTrap (trap : Trap) (action : Option String) : Run Unit := do
  match trap with
  | .exit => pure ()
  | .signal signal =>
    let disposition : Disposition := match action with
      | none => .standard
      | some text => if text.isEmpty then .ignore else .note
    let old ← Activity.setDisposition signal disposition
    if old = .ignore && ((← get).trap? trap).isNone then
      discard (Activity.setDisposition signal .ignore)
  modify fun state => state.setTrap trap action

def setTraps (action : Option String) : List String → Run Int
  | [] => pure 0
  | name :: rest => do
    match signalNumber? name with
    | none =>
      Activity.say .standardError ("trap: " ++ name ++ ": bad trap")
      pure 1
    | some 0 =>
      setTrap .exit action
      setTraps action rest
    | some number =>
      match Signal.ofNumber? number with
      | some signal => setTrap (.signal signal) action
      | none => pure ()
      setTraps action rest

def trap (arguments : List String) : Run Int := do
  match (← takeFlags [] [] arguments).2 with
  | [] =>
    let traps := (← get).traps.mergeSort fun left right =>
      trapNumber left.1 ≤ trapNumber right.1
    traps.forM fun entry =>
      say ("trap -- " ++ inQuotes entry.2 ++ " " ++ trapName entry.1)
    pure 0
  | [name] => setTraps none [name]
  | "-" :: names => setTraps none names
  | action :: names =>
    if (Text.parseWord64? action).isSome then setTraps none (action :: names)
    else setTraps (some action) names

end JobShell.Script.Builtin
