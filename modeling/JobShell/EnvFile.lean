import JobShell.Text.Blank
import JobShell.Text.Alphanumeric
import JobShell.Files.World

/-!
# Environment files

A file of lines `NAME=value` gives values to variables that have none yet.  It
is looked for in the working directory and in the directories above it.  Lines
in front of the first malformed one count.
-/

namespace JobShell.EnvFile

/-- The values that earlier lines have given; `none` for an empty one. -/
abbrev Known := List (String × Option String)

def startsName (c : Char) : Bool := c.isAlpha || c == '_'

def continuesName (c : Char) : Bool := c.isAlphanum || c == '_' || c == '.'

/-- The name at the start of a text, and the text behind it. -/
def splitName? (text : List Char) : Option (List Char × List Char) :=
  match text with
  | [] => none
  | c :: _ =>
    if startsName c then
      some (text.takeWhile continuesName, text.dropWhile continuesName)
    else none

/-- The text behind an equals sign, which may stand behind blanks. -/
def skipEquals? (text : List Char) : Option (List Char) :=
  match Text.trimStart text with
  | '=' :: rest => some (Text.trimStart rest)
  | _ => none

/-- The text behind a name and an equals sign, if a text begins with them. -/
def valueBehind? (name text : List Char) : Option (List Char) :=
  if (name ++ ['=']).isPrefixOf text then
    some (text.drop (name.length + 1)) else none

/-- The value of the first variable whose text `NAME=value` begins with a name
and an equals sign.  A name that holds an equals sign itself reaches into
values. -/
def valueIn? (environment : Environment)
    (name : List Char) : Option (List Char) :=
  environment.findSome? fun entry =>
    valueBehind? name (entry.1 ++ "=" ++ entry.2).toList

/-- What a name stands for: a variable, or else what an earlier line says. -/
def valueOf (environment : Environment) (known : Known)
    (name : List Char) : List Char :=
  match valueIn? environment name with
  | some value => value
  | none => (((known.lookup (String.ofList name)).getD none).getD "").toList

/-- Where the reader of a value stands. -/
inductive ValueMode where
  | plain
  | escaped
  /-- Behind the value, where only a comment may follow. -/
  | ended
  | strongQuote
  /-- Behind `$` and the characters of a name, backwards. -/
  | reference (name : List Char)
  /-- Between the braces of a reference. -/
  | braced (name : List Char)
  deriving DecidableEq, Repr

/-- `weakQuote` says that the reader is between double quotes. -/
structure ValueReader where
  mode : ValueMode
  weakQuote : Bool
  output : List Char
  deriving DecidableEq, Repr

namespace ValueReader

def start : ValueReader := { mode := .plain, weakQuote := false, output := [] }

def push (reader : ValueReader) (c : Char) : ValueReader :=
  { reader with output := reader.output ++ [c] }

/-- A character outside quotes, escapes and references. -/
def readPlain (reader : ValueReader) (c : Char) : ValueReader :=
  if c = '$' then { reader with mode := .reference [] }
  else if c = '\\' then { reader with mode := .escaped }
  else if reader.weakQuote then
    if c = '\x22' then { reader with weakQuote := false } else reader.push c
  else if c = '\x27' then { reader with mode := .strongQuote }
  else if c = '\x22' then { reader with weakQuote := true }
  else if c = ' ' || c = '\t' then { reader with mode := .ended }
  else reader.push c

def escapable (c : Char) : Bool :=
  c == '\\' || c == '\x27' || c == '\x22' || c == '$' || c == ' '

/-- Reads one character that is not behind the value; `none` when it must not
stand there. -/
def read? (environment : Environment) (known : Known) (reader : ValueReader)
    (c : Char) : Option ValueReader :=
  match reader.mode with
  | .plain => some (reader.readPlain c)
  | .ended => some reader
  | .escaped =>
    if escapable c then some { reader.push c with mode := .plain }
    else if c = 'n' then some { reader.push '\n' with mode := .plain }
    else none
  | .strongQuote =>
    some (if c = '\x27' then { reader with mode := .plain } else reader.push c)
  | .reference name =>
    if Text.isAlphanumeric c then
      some { reader with mode := .reference (c :: name) }
    else if c = '\x7b' && name.isEmpty then
      some { reader with mode := .braced [] }
    else
      let value := valueOf environment known name.reverse
      let reader := { reader with output := reader.output ++ value }
      some (if c = '$' then { reader with mode := .reference [] }
        else { reader.push c with mode := .plain })
  | .braced name =>
    if c = '\x7d' then
      let value := valueOf environment known name.reverse
      some { reader with mode := .plain, output := reader.output ++ value }
    else some { reader with mode := .braced (c :: name) }

/-- The value, when nothing is left open. -/
def finish? (environment : Environment) (known : Known) (reader : ValueReader) :
    Option (List Char) :=
  if reader.weakQuote then none
  else
    match reader.mode with
    | .braced _ | .strongQuote => none
    | .reference name =>
      some (reader.output ++ valueOf environment known name.reverse)
    | .plain | .escaped | .ended => some reader.output

end ValueReader

/-- Reads the rest of a value.  Behind the value come blanks and a comment. -/
def readValue? (environment : Environment) (known : Known)
    (reader : ValueReader) :
    List Char → Option (List Char)
  | [] => reader.finish? environment known
  | c :: rest =>
    if reader.mode = .ended then
      if c = ' ' || c = '\t' then readValue? environment known reader rest
      else if c = '#' then reader.finish? environment known
      else none
    else (reader.read? environment known c).bind fun reader =>
      readValue? environment known reader rest

/-- What one line says. -/
inductive Entry where
  | nothing
  | malformed
  | assign (name : String) (value : Option String)
  deriving DecidableEq, Repr

def isVoid (text : List Char) : Bool :=
  text.isEmpty || text.head? == some '#'

/-- The name that a line gives a value to, and the text of the value.  The word
`export` may stand in front of the name, but it may also be the name. -/
def splitLine? (line : List Char) : Option (List Char × List Char) := do
  let (name, rest) ← splitName? line
  match skipEquals? rest with
  | some value => pure (name, value)
  | none =>
    if name = "export".toList then
      let (name, rest) ← splitName? (Text.trimStart rest)
      let value ← skipEquals? rest
      pure (name, value)
    else none

def readLine (environment : Environment) (known : Known)
    (line : List Char) : Entry :=
  let line := Text.trimStart (Text.trimEnd line)
  if isVoid line then .nothing
  else
    match splitLine? line with
    | none => .malformed
    | some (name, text) =>
      if isVoid text then .assign (String.ofList name) none
      else
        match readValue? environment known .start text with
        | none => .malformed
        | some value =>
          .assign (String.ofList name) (some (String.ofList value))

/-- The environment with a variable set, unless it has a value already.  No
variable can hold a NUL. -/
def setNew? (environment : Environment)
    (name value : String) : Option Environment :=
  if (environment.get? name).isSome then some environment
  else if value.toList.contains '\x00' then none
  else some (environment.set name value)

/-- The environment after the lines of a file; a line that is no text is
malformed.  There is none when a variable cannot take its value. -/
def applyLines? (environment : Environment) (known : Known) :
    List (Option (List Char)) → Option Environment
  | [] => some environment
  | none :: _ => some environment
  | some line :: rest =>
    match readLine environment known line with
    | .nothing => applyLines? environment known rest
    | .malformed => some environment
    | .assign name value =>
      (setNew? environment name (value.getD "")).bind fun environment =>
        applyLines? environment ((name, value) :: known) rest

/-- The lines of a file, read one by one. -/
def linesOf (bytes : ByteArray) : List (Option (List Char)) :=
  (split bytes.toList []).map fun line =>
    (String.fromUTF8? ⟨line.toArray⟩).map String.toList
where
  split : List UInt8 → List UInt8 → List (List UInt8)
    | [], [] => []
    | [], line => [line.reverse]
    | byte :: rest, line =>
      if byte = 10 then line.reverse :: split rest []
      else split rest (byte :: line)

/-- The file of that name in a directory or in the nearest one above it. -/
def find? (world : World) (name : String) :
    (fuel : Nat) → (directory : String) → Option String
  | 0, _ => none
  | fuel + 1, directory =>
    let candidate := Path.join directory name
    let above := (Path.parent? directory.toList).bind fun parent =>
      find? world name fuel (String.ofList parent)
    match world.lookup candidate with
    | .ok (.node _ node) => if node.isFile then some candidate else above
    | .ok _ => above
    | .error error => if error = .system .noEntry then above else none

/-- The world with the variables of the environment file set.  There is none
when a variable cannot take its value. -/
def load? (world : World) (name : String) : Option World :=
  match world.currentDirectory with
  | .error _ => some world
  | .ok directory =>
    match find? world name (directory.length + 1) directory with
    | none => some world
    | some path =>
      match world.readFile path with
      | .error _ => some world
      | .ok bytes =>
        (applyLines? world.environment [] (linesOf bytes)).map
          fun environment =>
            { world with environment }

end JobShell.EnvFile
