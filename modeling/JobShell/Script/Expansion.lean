import JobShell.Script.Arithmetic
import JobShell.Script.Pattern
import JobShell.Script.Running

/-!
# Expansion

What the words of a script stand for when a statement is run.  Text that comes
from expansions outside quotes is split into fields, and a field that holds an
active pattern stands for the paths that fit it.
-/

namespace JobShell.Script

namespace State

/-- The value of a parameter of any kind. -/
def parameter? (state : State) (name : String) : Option String :=
  match name with
  | "@" | "*" =>
    if state.arguments.isEmpty then none
    else some (" ".intercalate state.arguments)
  | "#" => some (toString state.arguments.length)
  | "?" => some (toString state.status)
  | "$" => some (toString state.shell)
  | "!" => state.lastBackground.map fun pid => toString pid
  | "-" =>
    some (String.ofList (State.optionLetters.filter state.options.contains))
  | "0" => some state.name
  | name =>
    match Text.parseWord64? name with
    | some place => state.arguments[place - 1]?
    | none => state.value? name

end State

namespace Expansion

open Run

/-- The glyphs of a text that an expansion gives. -/
def glyphsOf (quoted : Bool) (text : String) : List Glyph :=
  if quoted then .mark :: text.toList.map .quoted else text.toList.map .produced

/-- The glyphs of the parameters of a script, each one a field. -/
def glyphsOfAll (quoted : Bool) (values : List String) : List Glyph :=
  ((values.map (glyphsOf quoted)).intersperse [.cut]).flatten

/-- The glyphs of an operand, as parts of the expansion that it belongs to. -/
def asProduced (quoted : Bool) (glyphs : List Glyph) : List Glyph :=
  glyphs.map fun glyph =>
    match glyph with
    | .literal c => if quoted then .quoted c else .produced c
    | glyph => glyph

/-- The output of a script that runs in a child. -/
def outputOf (script : String) : Run String := do
  match ← Activity.openPipe with
  | .error _ => fail "Pipe call failed"
  | .ok (reader, writer) =>
    let aside ← putAsideNow
    let child ← start (.text script (← get).line)
      { input := none, output := some writer, unused := reader :: aside,
        background := false }
    Activity.close writer
    let bytes ← Activity.readAll reader
    Activity.close reader
    let status ← awaitStatus child
    modify fun state => { state with substitutionStatus := status }
    let text := (bytes.toOption.bind String.fromUTF8?).getD ""
    pure (String.ofList (text.toList.reverse.dropWhile (· == '\n')).reverse)

def evaluate (text : String) : Run Int := do
  let state ← get
  match Arithmetic.evaluate state.value? text with
  | .error error => fail (error.message text)
  | .ok (value, changed) =>
    modify fun state =>
      changed.foldl
        (fun state entry => state.assign entry.1 (toString entry.2)) state
    pure value

/-- The home directory in place of a tilde at the start of a word. -/
def expandTilde (state : State) (word : Word) : List Glyph × Word :=
  match word with
  | .text content false :: rest =>
    match content.toList with
    | '~' :: behind =>
      if (behind.isEmpty && rest.isEmpty) || behind.head? = some '/' then
        match state.value? "HOME" with
        | some home =>
          (home.toList.map .quoted, .text (String.ofList behind) false :: rest)
        | none => ([], word)
      else ([], word)
    | _ => ([], word)
  | _ => ([], word)

def missing (name : String) : String := name ++ ": parameter not set"

/-- The glyphs of a parameter without an operand. -/
def glyphsOfParameter (name : String) (quoted : Bool) : Run (List Glyph) := do
  let state ← get
  if name = "@" then pure (glyphsOfAll quoted state.arguments)
  else if name = "*" then
    if quoted then
      let separator := (state.separators.head?.map String.singleton).getD ""
      pure (glyphsOf true (separator.intercalate state.arguments))
    else pure (glyphsOfAll false state.arguments)
  else
    match state.parameter? name with
    | some value => pure (glyphsOf quoted value)
    | none =>
      if state.options.contains 'u' then fail (missing name)
      else pure (glyphsOf quoted "")

mutual

def expandPart : WordPart → Run (List Glyph)
  | .text content quoted =>
    pure (if quoted then .mark :: content.toList.map .quoted
      else content.toList.map .literal)
  | .output script quoted => do pure (glyphsOf quoted (← outputOf script))
  | .arithmetic expression quoted => do
    let text := Glyph.text (← expandParts expression)
    pure (glyphsOf quoted (toString (← evaluate text)))
  | .parameter name use emptyIsMissing operand quoted => do
    let state ← get
    let value? := state.parameter? name
    let present := match value? with
      | some value => !(emptyIsMissing && value.isEmpty)
      | none => false
    match use with
    | .unknown => fail "Bad substitution"
    | .value => glyphsOfParameter name quoted
    | .length =>
      pure (glyphsOf quoted (toString (value?.getD "").utf8ByteSize))
    | .orElse =>
      if present then glyphsOfParameter name quoted
      else pure (asProduced quoted (← expandParts operand))
    | .ifPresent =>
      if present then pure (asProduced quoted (← expandParts operand))
      else pure (glyphsOf quoted "")
    | .orAssign =>
      if present then glyphsOfParameter name quoted
      else
        let value := Glyph.text (← expandParts operand)
        if isName name.toList then
          modify fun state => state.assign name value
          pure (glyphsOf quoted value)
        else fail (name ++ ": bad variable name")
    | .orFail =>
      if present then glyphsOfParameter name quoted
      else
        let text := Glyph.text (← expandParts operand)
        fail (if text.isEmpty then missing name else name ++ ": " ++ text)
    | .withoutStart longest => do
      let pattern := Pattern.read (← expandParts operand)
      let rest := pattern.withoutStart longest (value?.getD "").toList
      pure (glyphsOf quoted (String.ofList rest))
    | .withoutEnd longest => do
      let pattern := Pattern.read (← expandParts operand)
      let rest := pattern.withoutEnd longest (value?.getD "").toList
      pure (glyphsOf quoted (String.ofList rest))

def expandParts : List WordPart → Run (List Glyph)
  | [] => pure []
  | part :: rest => do
    let glyphs ← expandPart part
    pure (glyphs ++ (← expandParts rest))

end

/-- The glyphs of a word. -/
def expand (word : Word) : Run (List Glyph) := do
  let (front, word) := expandTilde (← get) word
  pure (front ++ (← expandParts word))

/-- A word that stands for one text. -/
def expandText (word : Word) : Run String := do
  pure (Glyph.text (← expand word))

/-- The pieces of a text between its colons. -/
def betweenColons : List Char → List (List Char)
  | [] => [[]]
  | ':' :: rest => [] :: betweenColons rest
  | c :: rest =>
    match betweenColons rest with
    | piece :: others => (c :: piece) :: others
    | [] => [[c]]

/-- The value of an assignment with the home directory in place of a tilde
behind a colon too; `atStart` says that nothing stands in front of it. -/
def withTildes (state : State) (atStart : Bool) : Word → Word
  | [] => []
  | .text content false :: rest =>
    let pieces := betweenColons content.toList
    let expanded := pieces.mapIdx fun index piece =>
      let behind := if index + 1 = pieces.length then rest.take 1 else []
      let part := WordPart.text (String.ofList piece) false
      if index = 0 && !atStart then [part]
      else
        let (home, parts) := expandTilde state (part :: behind)
        .text (Glyph.text home) true :: parts.take 1
    (expanded.intersperse [.text ":" false]).flatten ++
      withTildes state false rest
  | part :: rest => part :: withTildes state false rest

/-- The value of an assignment. -/
def expandValue (word : Word) : Run String := do
  pure (Glyph.text (← expandParts (withTildes (← get) true word)))

/-- Whether a glyph is a separator of fields, of the blank kind or of the
other. -/
def isSeparator (separators : List Char) (blank : Bool) : Glyph → Bool
  | .produced c =>
    separators.contains c && (c == ' ' || c == '\t' || c == '\n') == blank
  | _ => false

/-- The glyphs behind one delimiter: blanks around at most one other
separator. -/
def behindDelimiter (separators : List Char)
    (glyphs : List Glyph) : List Glyph :=
  let glyphs := glyphs.dropWhile (isSeparator separators true)
  match glyphs with
  | glyph :: rest =>
    if isSeparator separators false glyph then
      rest.dropWhile (isSeparator separators true)
    else glyphs
  | [] => []

/-- Splits glyphs into fields at separators. -/
def split (separators : List Char) :
    (fuel : Nat) → List Glyph → List (List Glyph)
  | 0, _ => []
  | fuel + 1, glyphs =>
    let isAny (glyph : Glyph) : Bool :=
      isSeparator separators true glyph || isSeparator separators false glyph
    let field := glyphs.takeWhile fun glyph => !isAny glyph
    match glyphs.drop field.length with
    | [] => if field.isEmpty then [] else [field]
    | rest => field :: split separators fuel (behindDelimiter separators rest)

/-- The pieces between cuts. -/
def pieces : List Glyph → List (List Glyph)
  | [] => [[]]
  | .cut :: rest => [] :: pieces rest
  | glyph :: rest =>
    match pieces rest with
    | piece :: others => (glyph :: piece) :: others
    | [] => [[glyph]]

/-- The fields that the glyphs of a word make. -/
def fields (separators : List Char) (glyphs : List Glyph) : List (List Glyph) :=
  (pieces glyphs).flatMap fun piece =>
    let piece := piece.dropWhile (isSeparator separators true)
    split separators (piece.length + 1) piece

/-- The names in a directory that fit a pattern; those that begin with a point
fit only a pattern that does so too. -/
def namesThatFit (world : World) (directory : String)
    (pattern : Pattern) : List String :=
  match world.list (if directory.isEmpty then "." else directory) with
  | .error _ => []
  | .ok entries =>
    let hidden := pattern.head? == some (.one '.')
    let names := if hidden then [".", ".."] ++ entries.map Prod.fst
      else entries.map Prod.fst
    (names.filter fun name =>
      (hidden || name.toList.head? != some '.') &&
        pattern.fits name.toList).mergeSort (· ≤ ·)

/-- The paths that fit some patterns, one for each name on the way, below a
place. -/
def pathsThatFit (world : World) (front : String) : List Pattern → List String
  | [] => [front]
  | pattern :: rest =>
    if pattern.isPlain then
      let name := String.ofList (pattern.filterMap fun item =>
        match item with
        | .one c => some c
        | _ => none)
      let path := front ++ name
      if rest.isEmpty then if name.isEmpty || world.exists_ path then
        [path] else []
      else pathsThatFit world (path ++ "/") rest
    else
      (namesThatFit world front pattern).flatMap fun name =>
        let path := front ++ name
        if rest.isEmpty then [path]
        else if world.isDirectory path then
          pathsThatFit world (path ++ "/") rest
        else []

/-- The glyphs between slashes. -/
def components : List Glyph → List (List Glyph)
  | [] => [[]]
  | glyph :: rest =>
    if glyph.char? = some '/' then [] :: components rest
    else
      match components rest with
      | first :: others => (glyph :: first) :: others
      | [] => [[glyph]]

/-- What a field stands for. -/
def paths (world : World) (field : List Glyph) : List String :=
  if (Pattern.read field).isPlain then [Glyph.text field]
  else
    match pathsThatFit world "" ((components field).map Pattern.read) with
    | [] => [Glyph.text field]
    | found => found

/-- The words of a command that takes assignments as its arguments.  Values are
not split. -/
def expandMarked : List Word → (assignment? : Word → Option (String × Word)) →
    Run (List Word)
  | [], _ => pure []
  | word :: rest, assignment? => do
    let others ← expandMarked rest assignment?
    match assignment? word with
    | none => pure (word :: others)
    | some (name, value) =>
      pure ([.text (name ++ "=" ++ (← expandValue value)) true] :: others)

/-- The fields that words stand for. -/
def expandWords : List Word → Run (List String)
  | [] => pure []
  | word :: rest => do
    let glyphs ← expand word
    let state ← get
    let found := fields state.separators glyphs
    let texts ←
      if state.options.contains 'f' then pure (found.map Glyph.text)
      else do
        let world ← Activity.observe
        pure (found.flatMap (paths world))
    pure (texts ++ (← expandWords rest))

end Expansion

end JobShell.Script
