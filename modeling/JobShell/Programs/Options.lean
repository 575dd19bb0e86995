import JobShell.System.Call

/-!
# Options of programs

Options are letters behind a dash or names behind two; they may stand anywhere
in front of a lone `--`.  A name may be cut short as long as it says which one
is meant.
-/

namespace JobShell.Programs

/-- An option of a program; `valued` says that a value comes with it. -/
structure KnownOption where
  letter : Char
  name : String
  valued : Bool
  deriving DecidableEq, Repr

/-- The options that have been given, with their values, and the other
arguments. -/
structure Given where
  options : List (Char × String)
  operands : List String
  deriving DecidableEq, Repr

namespace Given

def has (given : Given) (letter : Char) : Bool :=
  given.options.any fun option => option.1 == letter

/-- The value of the last option with this letter. -/
def value? (given : Given) (letter : Char) : Option String :=
  (given.options.filter fun option => option.1 == letter).getLast?.map Prod.snd

def addOptions (given : Given) (found : List (Char × String)) : Given :=
  { given with options := found ++ given.options }

def addOperand (given : Given) (operand : String) : Given :=
  { given with operands := operand :: given.operands }

end Given

namespace KnownOption

def inQuotes (text : String) : String := "'" ++ text ++ "'"

/-- The option that a name means. -/
def named (known : List KnownOption)
    (name : String) : Except String KnownOption :=
  let fitting := known.filter fun option =>
    name.toList.isPrefixOf option.name.toList
  match known.find? fun option => option.name == name, fitting with
  | some option, _ => .ok option
  | none, [option] => .ok option
  | none, [] => .error ("unrecognized option " ++ inQuotes ("--" ++ name))
  | none, several =>
    .error ("option " ++ inQuotes ("--" ++ name) ++
      " is ambiguous; possibilities: " ++
      " ".intercalate (several.map fun option =>
        inQuotes ("--" ++ option.name)))

/-- The name and the value of an option behind two dashes. -/
def splitName (text : List Char) : String × Option String :=
  let name := text.takeWhile (· != '=')
  (String.ofList name,
    match text.drop name.length with
    | [] => none
    | _ :: value => some (String.ofList value))

/-- What one argument is: the end of the options, an operand, or some options,
the last of which may want the next argument as its value. -/
inductive Piece where
  | ending
  | operand
  | options (found : List (Char × String)) (wanting : Option Char)
      (complaint : String)
  deriving DecidableEq, Repr

/-- The options of a row of letters. -/
def readLetters (known : List KnownOption) (found : List (Char × String)) :
    List Char → Except String Piece
  | [] => .ok (.options found none "")
  | c :: rest =>
    match known.find? fun option => option.letter == c with
    | none => .error ("invalid option -- " ++ inQuotes (String.singleton c))
    | some option =>
      if !option.valued then readLetters known (found ++ [(c, "")]) rest
      else if rest.isEmpty then
        .ok (.options found (some c)
          ("option requires an argument -- " ++ inQuotes (String.singleton c)))
      else .ok (.options (found ++ [(c, String.ofList rest)]) none "")

/-- The option behind two dashes. -/
def readName (known : List KnownOption)
    (text : List Char) : Except String Piece := do
  let (name, value) := splitName text
  let option ← named known name
  let shown := inQuotes ("--" ++ option.name)
  match option.valued, value with
  | false, some _ => throw ("option " ++ shown ++ " doesn't allow an argument")
  | false, none => pure (.options [(option.letter, "")] none "")
  | true, some value => pure (.options [(option.letter, value)] none "")
  | true, none =>
    pure (.options [] (some option.letter)
      ("option " ++ shown ++ " requires an argument"))

def readPiece (known : List KnownOption)
    (argument : String) : Except String Piece :=
  match argument.toList with
  | ['-', '-'] => .ok .ending
  | '-' :: '-' :: text => readName known text
  | '-' :: c :: letters => readLetters known [] (c :: letters)
  | _ => .ok .operand

/-- Tells options from other arguments. -/
def read (known : List KnownOption) : List String → Except String Given
  | [] => .ok { options := [], operands := [] }
  | argument :: rest => do
    match ← readPiece known argument with
    | .ending => pure { options := [], operands := rest }
    | .operand => do pure ((← read known rest).addOperand argument)
    | .options found none _ => do pure ((← read known rest).addOptions found)
    | .options found (some letter) complaint =>
      match rest with
      | [] => throw complaint
      | value :: rest => do
          pure ((← read known rest).addOptions (found ++ [(letter, value)]))

end KnownOption

/-- A complaint of a program, which has the name that it was called by. -/
def complain (program text : String) : Activity Unit :=
  Activity.say .standardError (program ++ ": " ++ text)

/-- Where to find help behind a complaint. -/
def pointToHelp (program : String) : Activity Unit :=
  Activity.say .standardError
    ("Try '" ++ program ++ " --help' for more information.")

/-- Runs a program with the options that it has been given; malformed ones end
it with a status. -/
def withOptions (program : String) (known : List KnownOption) (failure : Int)
    (arguments : List String) (action : Given → Activity Int) :
    Activity Int := do
  match KnownOption.read known arguments with
  | .ok given => action given
  | .error text =>
    complain program text
    pointToHelp program
    pure failure

/-- Opens what a name stands for: a file, or the input for a lone dash. -/
def openNamed (name : String) : Activity (Except String Descriptor) := do
  if name = "-" then pure (.ok .standardInput)
  else
    match ← Activity.openFile .input name with
    | .error (.system errno) => pure (.error errno.text)
    | .error error => pure (.error error.message)
    | .ok descriptor => pure (.ok descriptor)

def closeNamed (name : String) (descriptor : Descriptor) : Activity Unit :=
  if name = "-" then pure () else Activity.close descriptor

/-- Reads what is open under a name to its end, and closes it. -/
def readOpened (name : String) (descriptor : Descriptor) :
    Activity (Except String ByteArray) := do
  let bytes ← Activity.readAll descriptor
  closeNamed name descriptor
  pure (bytes.mapError Errno.text)

/-- The sources that are named, or else the input. -/
def sourcesOf (given : Given) : List String :=
  if given.operands.isEmpty then ["-"] else given.operands

/-- Whether a byte can be seen. -/
def isPrintByte (byte : UInt8) : Bool := 32 ≤ byte && byte ≤ 126

end JobShell.Programs
