import JobShell.Script.Builtin.Condition
import JobShell.Script.Builtin.Directory
import JobShell.Script.Builtin.Format
import JobShell.Script.Builtin.ReadLine
import JobShell.Script.Builtin.Waiting
import JobShell.Script.Launching
import JobShell.Script.Loop
import JobShell.Script.Manner
import JobShell.Script.Redirection

/-!
# Simple commands

The first word of a command names a builtin command, a function, or a program.
Failures of some builtin commands end the script.
-/

namespace JobShell.Script.Execution

open Run

/-- Makes assignments one after the other; gives the values. -/
def assignAll (exported : Bool) :
    List (String × Word) → Run (List (String × String))
  | [] => pure []
  | (name, word) :: rest => do
    let value ← Expansion.expandValue word
    Builtin.assign name value
    if exported then modify fun state => state.assignExported name value
    pure ((name, value) :: (← assignAll exported rest))

/-- Gives variables the contents that they had, the latest ones first. -/
def restore (old : List (String × Variable)) : Run Unit :=
  modify fun state =>
    old.foldl
      (fun state entry =>
        if entry.2.value.isNone && !entry.2.exported then state.unset entry.1
        else state.put entry.1 entry.2)
      state

/-- Runs an action with assignments that hold for it alone. -/
def withAssignments (assignments : List (String × Word))
    (action : List (String × String) → Run Int) : Run Int := do
  let state ← get
  let old := (assignments.map fun entry => (entry.1, state.get entry.1)).reverse
  let outcome ← attempt (do action (← assignAll true assignments))
  restore old
  ofOutcome outcome

/-- Runs the body of a function with parameters and variables of its own. -/
def call (body : Run Int) (arguments : List String) : Run Int := do
  let outer ← get
  set { outer with arguments, hidden := some [], loops := 0 }
  let outcome ← attempt body
  restore (((← get).hidden).getD [])
  modify fun state =>
    { state with
      arguments := outer.arguments, hidden := outer.hidden,
      loops := outer.loops }
  match outcome with
  | .error (.giveBack status) => pure status
  | outcome => ofOutcome outcome

/-- The builtin commands that run no statements and whose failures do not end
the script. -/
def plainBuiltin? : String → Option (List String → Run Int)
  | "echo" => some Builtin.echo
  | "printf" => some Builtin.printf
  | "test" => some Builtin.test
  | "[" => some Builtin.bracketTest
  | "cd" | "chdir" => some Builtin.changeDirectory
  | "pwd" => some Builtin.printDirectory
  | "read" => some Builtin.read
  | "kill" => some Builtin.kill
  | "wait" => some Builtin.wait
  | "umask" => some fun _ => do
    Builtin.say "0022"
    pure 0
  | "true" | "hash" | "alias" | "jobs" => some fun _ => pure 0
  | "false" => some fun _ => pure 1
  | _ => none

/-- A status that is given as an argument, or the status so far. -/
def statusFrom (usual : Int) : List String → Run Int
  | [] => pure usual
  | text :: _ => do pure (← Builtin.number text)

/-- Runs the commands of a file that is given by its path or found on the search
path. -/
def runFile (run : Runner) (arguments : List String) : Run Int := do
  match arguments with
  | [] => pure 0
  | name :: _ =>
    let world ← Activity.observe
    let readable (path : String) : Bool := (world.readFile path).isOk
    match (Launching.candidates (← get) name).find? readable with
    | none =>
      if name.toList.contains '/' then
        fail ("cannot open " ++ name ++ ": No such file")
      else fail (name ++ ": " ++ Launching.notFound)
    | some path =>
      let bytes := (world.readFile path).toOption.getD ByteArray.empty
      let text := (String.fromUTF8? bytes).getD ""
      match ← attempt (inName path (runText run .usual text)) with
      | .error (.giveBack status) => pure status
      | outcome => ofOutcome outcome

/-- The builtin commands whose failures end the script. -/
def specialBuiltin? (run : Runner)
    (manner : Manner) : String → Option (List String → Run Int)
  | ":" => some fun _ => pure 0
  | "." => some (runFile run)
  | "break" => some (leaveLoops .breakLoop)
  | "continue" => some (leaveLoops .continueLoop)
  | "eval" => some fun arguments =>
    if arguments.isEmpty then pure 0
    else runText run manner.notLast (" ".intercalate arguments)
  | "exec" => some fun arguments =>
    match arguments with
    | [] => pure 0
    | name :: _ => do
        Launching.become (Launching.candidates (← get) name) arguments
  | "exit" => some fun arguments => do
    let state ← get
    throw (.leave (← statusFrom (state.trapStatus.getD state.status) arguments))
  | "export" => some Builtin.export_
  | "local" => some Builtin.makeLocal
  | "readonly" => some Builtin.readOnly
  | "return" => some fun arguments => do
    throw (.giveBack (← statusFrom (← get).status arguments))
  | "set" => some Builtin.set_
  | "shift" => some Builtin.shift
  | "times" => some fun _ => do
    Builtin.say "0m0.000000s 0m0.000000s\n0m0.000000s 0m0.000000s"
    pure 0
  | "trap" => some Builtin.trap
  | "unset" => some Builtin.unset
  | _ => none

/-- What the name of a command leads to. -/
inductive Meaning where
  /-- There are no words. -/
  | nothing
  | special (action : List String → Run Int)
  | function (body : Statement)
  | plain (action : List String → Run Int)
  | program

def meaningOf (run : Runner) (manner : Manner)
    (state : State) : List String → Meaning
  | [] => .nothing
  | name :: _ =>
    match specialBuiltin? run manner name, state.function? name,
      plainBuiltin? name with
    | some action, _, _ => .special action
    | none, some body, _ => .function body
    | none, none, some action => .plain action
    | none, none, none => .program

/-- Runs a builtin command; output that has been lost is complained about. -/
def runBuiltin (name : String) (action : Run Int) : Run Int :=
  inName name (do
    let status ← action
    if (← get).unwritten then
      modify fun state => { state with unwritten := false }
      warn (name ++ ": I/O error")
      pure (if status % 2 = 0 then status + 1 else status)
    else pure status)

/-- Runs a builtin command whose failures count as its status. -/
def runPlain (name : String) (action : Run Int) : Run Int := do
  match ← attempt (runBuiltin name action) with
  | .error (.failure status) => pure status
  | outcome => ofOutcome outcome

/-- What a name is, as one says it, and the short form of that. -/
def describe? (manner : Manner)
    (name : String) : Run (Option (String × String)) := do
  let known (text : String) : Option (String × String) :=
    some (name ++ " is " ++ text, name)
  if Token.reserved.contains name then pure (known "a shell keyword")
  else
    match meaningOf (fun _ _ => pure 0) manner (← get) [name] with
    | .nothing => pure none
    | .special _ => pure (known "a special shell builtin")
    | .function _ => pure (known "a shell function")
    | .plain _ => pure (known "a shell builtin")
    | .program =>
      if name = "command" || name = "type" then pure (known "a shell builtin")
      else
        let path := ((← Launching.find name).toOption.bind List.head?).getD ""
        if path.isEmpty || !(← Activity.observe).exists_ path then pure none
        else pure (some (name ++ " is " ++ path, path))

/-- Says what names are; the status tells whether all of them are known. -/
def describeAll (manner : Manner) (status : Int) : List String → Run Int
  | [] => pure status
  | name :: rest => do
    match ← describe? manner name with
    | some (sentence, _) =>
      Builtin.say sentence
      describeAll manner status rest
    | none =>
      Builtin.say (name ++ ": " ++ Launching.notFound)
      describeAll manner Launching.missingStatus rest

/-- Runs a command that is no function, or says what it is. -/
def runCommand (run : Runner) (manner : Manner)
    (arguments : List String) : Run Int := do
  match arguments with
  | [] | ["-v"] | ["-V"] | ["-p"] | ["--"] => pure 0
  | "-V" :: name :: _ => describeAll manner 0 [name]
  | "-v" :: name :: _ =>
    match ← describe? manner name with
    | some (_, short) =>
      Builtin.say short
      pure 0
    | none => pure Launching.missingStatus
  | "-p" :: name :: rest | "--" :: name :: rest | name :: rest =>
    match meaningOf run manner { ← get with functions := [] } [name] with
    | .special action | .plain action => runPlain name (action rest)
    | _ => Launching.launch (← mayBecome manner) name (name :: rest)

/-- Runs the command that words stand for. -/
def dispatch (run : Runner) (manner : Manner) (meaning : Meaning)
    (words : List String) : Run Int := do
  let name := words.headD ""
  let arguments := words.drop 1
  match meaning with
  | .nothing => pure (← get).substitutionStatus
  | .special action => runBuiltin name (action arguments)
  | .function body => call (run manner.notLast body) arguments
  | .plain action => runPlain name (action arguments)
  | .program =>
    if name = "command" then runCommand run manner arguments
    else if name = "type" then runPlain name (describeAll manner 0 arguments)
    else Launching.launch (← mayBecome manner) name words

/-- Shows a command in front of its run. -/
def trace (undo : List Undo) (assignments : List (String × String))
    (words : List String) : Run Unit := do
  let state ← get
  if state.options.contains 'x' then
    let target := ((undo.lookup .standardError).join).getD .standardError
    let shown :=
      assignments.map (fun entry => entry.1 ++ "=" ++ entry.2) ++ words
    Activity.say target ((state.value? "PS4").getD "" ++ " ".intercalate shown)

/-- Makes the assignments in front of a command, and runs it.  They stay when
there is no command, or one whose failures end the script. -/
def runAssigned (run : Runner) (manner : Manner) (meaning : Meaning)
    (undo : List Undo) (assignments : List (String × Word))
    (words : List String) : Run Int := do
  let go (values : List (String × String)) : Run Int := do
    trace undo values words
    dispatch run manner meaning words
  match meaning with
  | .nothing => do go (← assignAll false assignments)
  | .special _ => do
    go (← assignAll (words.head? == some "exec" && words.length > 1)
      assignments)
  | _ => withAssignments assignments go

/-- The commands whose arguments may be assignments. -/
def takesAssignments (words : List Word) : Bool :=
  match (words.head?.map Token.word).bind Token.plain? with
  | some name => name == "export" || name == "readonly" || name == "local"
  | none => false

/-- Runs a simple command.  Redirections of `exec` stay. -/
def runSimple (run : Runner) (manner : Manner)
    (assignments : List (String × Word)) (words : List Word)
    (redirects : List Redirect) : Run Int := do
  modify fun state => { state with substitutionStatus := 0 }
  let words ← if takesAssignments words then
    Expansion.expandMarked words Reading.assignment?
    else pure words
  let texts ← Expansion.expandWords words
  let meaning := meaningOf run manner (← get) texts
  let (undo, fine) ← Redirection.makeAll []
    (← Redirection.expandTargets redirects)
  let outcome ← attempt (do
    if fine then runAssigned run manner meaning undo assignments texts
    else
      match meaning with
      | .special _ => throw (.failure failureStatus)
      | _ => pure failureStatus)
  if texts.head? = some "exec" && outcome.isOk then forgetAside undo
  else putBack undo
  ofOutcome outcome
where
  forgetAside (undo : List Undo) : Run Unit := do
    Activity.closeAll (undo.filterMap Prod.snd)
    modify fun state =>
      { state with saved := state.saved - (undo.filterMap Prod.snd).length }

end JobShell.Script.Execution
