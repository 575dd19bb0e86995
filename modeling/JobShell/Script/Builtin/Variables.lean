import JobShell.Script.Builtin.Signals

/-!
# Variables, parameters and options

The commands that set, mark and show them.
-/

namespace JobShell.Script.Builtin

open Run

/-- The name and the value of an argument of the form `name=value`. -/
def splitAssignment (argument : String) : String × Option String :=
  let name := argument.toList.takeWhile (· != '=')
  match argument.toList.drop name.length with
  | [] => (argument, none)
  | _ :: value => (String.ofList name, some (String.ofList value))

/-- Marks variables, some of which get a value first. -/
def markAll (mark : Variable → Variable) : List String → Run Int
  | [] => pure 0
  | argument :: rest => do
    let (name, value) := splitAssignment argument
    if !isName name.toList then fail (name ++ ": bad variable name")
    else
      match value with
      | some value => assign name value
      | none => pure ()
      modify fun state => state.put name (mark (state.get name))
      markAll mark rest

/-- Shows the variables with a mark, as commands that set them again. -/
def showMarked (command : String) (marked : Variable → Bool) : Run Unit := do
  let entries := (← get).bindings.filter fun entry => marked entry.2
  (entries.mergeSort fun left right => left.1 ≤ right.1).forM fun entry =>
    say (command ++ " " ++ entry.1 ++
      match entry.2.value with
      | some value => "=" ++ inQuotes value
      | none => "")

def export_ (arguments : List String) : Run Int := do
  match (← takeFlags ['p'] [] arguments).2 with
  | [] =>
    showMarked "export" Variable.exported
    pure 0
  | names =>
    markAll (fun variable_ => { variable_ with exported := true }) names

def readOnly (arguments : List String) : Run Int := do
  match (← takeFlags ['p'] [] arguments).2 with
  | [] =>
    showMarked "readonly" Variable.readOnly
    pure 0
  | names =>
    markAll (fun variable_ => { variable_ with readOnly := true }) names

def unsetAll (functions : Bool) : List String → Run Int
  | [] => pure 0
  | name :: rest => do
    if !isName name.toList then fail (name ++ ": bad variable name")
    else if functions then
      modify fun state =>
        { state with
          functions := state.functions.filter fun entry => entry.1 != name }
    else if ((← get).get name).readOnly then fail (name ++ ": is read only")
    else modify fun state => state.unset name
    unsetAll functions rest

def unset (arguments : List String) : Run Int := do
  let (flags, names) ← takeFlags ['f', 'v'] [] arguments
  unsetAll ((flags.getLast?.map Prod.fst) == some 'f') names

/-- Makes variables local to the function. -/
def makeLocal : List String → Run Int
  | [] => pure 0
  | argument :: rest => do
    let state ← get
    match state.hidden with
    | none => fail "not in a function"
    | some hidden =>
      let (name, value) := splitAssignment argument
      set { state with hidden := some ((name, state.get name) :: hidden) }
      match value with
      | some value => assign name value
      | none => pure ()
      makeLocal rest

def shift (arguments : List String) : Run Int := do
  let count ← match arguments with
    | [] => pure 1
    | text :: _ => number text
  let state ← get
  if count > state.arguments.length then fail "can't shift that many"
  else
    set { state with arguments := state.arguments.drop count }
    pure 0

/-- The letters of the options that have names too. -/
def longOptions : List (String × Char) :=
  [("errexit", 'e'), ("noglob", 'f'), ("nounset", 'u'), ("xtrace", 'x'),
    ("allexport", 'a'), ("noclobber", 'C'), ("verbose", 'v'), ("noexec", 'n')]

def setOptions (on : Bool) (letters : List Char) : Run Unit :=
  modify fun state =>
    let others := state.options.filter fun c => !letters.contains c
    { state with options := if on then others ++ letters else others }

/-- Takes the options in front of the operands; gives these, if there are
any. -/
def takeOptions : List String → Run (Option (List String))
  | [] => pure none
  | argument :: rest => do
    match argument.toList with
    | ['-', '-'] => pure (some rest)
    | ['-'] => if rest.isEmpty then pure none else pure (some rest)
    | ['-', 'o'] | ['+', 'o'] =>
      match rest with
      | [] => pure none
      | name :: rest =>
        match longOptions.lookup name with
        | some letter =>
          setOptions (argument == "-o") [letter]
          takeOptions rest
        | none => fail ("Illegal option -o " ++ name)
    | '-' :: letters =>
      check letters
      setOptions true letters
      takeOptions rest
    | '+' :: letters =>
      check letters
      setOptions false letters
      takeOptions rest
    | _ => pure (some (argument :: rest))
where
  check (letters : List Char) : Run Unit :=
    match letters.find? fun c => !State.optionLetters.contains c with
    | some letter => fail ("Illegal option -" ++ String.singleton letter)
    | none => pure ()

def set_ (arguments : List String) : Run Int := do
  if arguments.isEmpty then
    let entries := (← get).bindings.filter fun entry => entry.2.value.isSome
    (entries.mergeSort fun left right => left.1 ≤ right.1).forM fun entry =>
      say (entry.1 ++ "=" ++ inQuotes (entry.2.value.getD ""))
  else
    match ← takeOptions arguments with
    | some operands => modify fun state => { state with arguments := operands }
    | none => pure ()
  pure 0

end JobShell.Script.Builtin
