import JobShell.Script.Syntax

/-!
# Reading words

A word goes on up to a blank, an operator or the end of the line, unless these
are quoted.  Quotes and expansions may hold one another.
-/

namespace JobShell.Script

/-- What is open in a text, from the inside out. -/
inductive Nesting where
  | paren
  | brace
  | double
  | single
  | back
  deriving DecidableEq, Repr

/-- The brackets and quotes that are open behind one more character; `next` is
the character behind that one. -/
def nest (stack : List Nesting) (c : Char)
    (next : Option Char) : List Nesting :=
  match stack with
  | [] => []
  | .single :: outer => if c = '\x27' then outer else stack
  | .back :: outer => if c = '\x60' then outer else stack
  | top :: outer =>
    if c = '$' && next = some '\x7b' then .brace :: stack
    else if c = '\x60' then .back :: stack
    else if top = .double then
      if c = '\x22' then outer
      else if c = '$' && next = some '(' then .paren :: stack else stack
    else if c = '\x22' then .double :: stack
    else if c = '\x27' then .single :: stack
    else if c = '$' && next = some '(' then .paren :: stack
    else if c = '(' && top = .paren then .paren :: stack
    else if c = ')' && top = .paren then outer
    else if c = '\x7d' && top = .brace then outer
    else stack

/-- The text up to the character that closes what is open, and the text behind
it.  `inside` is what has been passed, backwards; a bracket behind a dollar sign
has been counted together with that. -/
def spanClosed? (stack : List Nesting) (inside : List Char) :
    List Char → Option (List Char × List Char)
  | [] => none
  | '\\' :: c :: rest =>
    if stack.head? = some .single then
      spanClosed? stack ('\\' :: inside) (c :: rest)
    else spanClosed? stack (c :: '\\' :: inside) rest
  | '$' :: c :: rest =>
    let deeper := nest stack '$' (some c)
    if deeper.length > stack.length then
      spanClosed? deeper (c :: '$' :: inside) rest
    else spanClosed? deeper ('$' :: inside) (c :: rest)
  | c :: rest =>
    match nest stack c none with
    | [] => some (inside.reverse, rest)
    | stack => spanClosed? stack (c :: inside) rest

/-- How a word is read. -/
inductive WordMode where
  /-- Up to what ends a word. -/
  | word
  /-- Up to the double quote that closes. -/
  | double
  /-- The whole text, as in a word, or as between double quotes. -/
  | operand (quoted : Bool)
  /-- The whole text of a document. -/
  | document
  deriving DecidableEq, Repr

namespace WordMode

def isQuoted : WordMode → Bool
  | word | operand false => false
  | _ => true

end WordMode

def isOperatorStart (c : Char) : Bool := "&|;<>()".toList.contains c

def endsWord (c : Char) : Bool :=
  c == ' ' || c == '\t' || c == '\n' || isOperatorStart c

def startsName (c : Char) : Bool := c.isAlpha || c == '_'

def isNameCharacter (c : Char) : Bool := c.isAlphanum || c == '_'

def isName (text : List Char) : Bool :=
  match text with
  | [] => false
  | c :: rest => startsName c && rest.all isNameCharacter

/-- The parameters whose name is one sign. -/
def isSpecialParameter (c : Char) : Bool := "@*#?-$!".toList.contains c

/-- One more character behind parts that are held backwards. -/
def addCharacter (quoted : Bool) (c : Char) : List WordPart → List WordPart
  | .text content old :: parts =>
    if old = quoted then .text (content.push c) quoted :: parts
    else .text (String.singleton c) quoted :: .text content old :: parts
  | parts => .text (String.singleton c) quoted :: parts

/-- The text of a command between back quotes. -/
def unescapeBack (quoted : Bool) : List Char → List Char
  | '\\' :: c :: rest =>
    if c = '$' || c = '\x60' || c = '\\' || (quoted && c = '\x22') then
      c :: unescapeBack quoted rest
    else '\\' :: c :: unescapeBack quoted rest
  | c :: rest => c :: unescapeBack quoted rest
  | [] => []

/-- The text up to the back quote that closes. -/
def spanBack? (inside : List Char) : List Char → Option (List Char × List Char)
  | [] => none
  | '\\' :: c :: rest => spanBack? (c :: '\\' :: inside) rest
  | c :: rest => if c = '\x60' then some (inside.reverse, rest)
      else spanBack? (c :: inside) rest

/-- The name of a parameter at the start of a text, and what follows it. -/
def spanParameter (text : List Char) : List Char × List Char :=
  match text with
  | [] => ([], [])
  | c :: rest =>
    if isSpecialParameter c then ([c], rest)
    else if c.isDigit then
      (text.takeWhile Char.isDigit, text.dropWhile Char.isDigit)
    else if startsName c then
      (text.takeWhile isNameCharacter, text.dropWhile isNameCharacter)
    else ([], text)

/-- What stands behind the name of a parameter between braces: whether an empty
value counts as missing, what is wanted, and the text of the operand. -/
def parameterUse? (text : List Char) :
    Option (Bool × ParameterUse × List Char) :=
  let (emptyIsMissing, text) := match text with
    | ':' :: rest => (true, rest)
    | text => (false, text)
  match text with
  | [] => if emptyIsMissing then none else some (false, .value, [])
  | '-' :: rest => some (emptyIsMissing, .orElse, rest)
  | '=' :: rest => some (emptyIsMissing, .orAssign, rest)
  | '?' :: rest => some (emptyIsMissing, .orFail, rest)
  | '+' :: rest => some (emptyIsMissing, .ifPresent, rest)
  | '#' :: '#' :: rest => some (false, .withoutStart true, rest)
  | '#' :: rest => some (false, .withoutStart false, rest)
  | '%' :: '%' :: rest => some (false, .withoutEnd true, rest)
  | '%' :: rest => some (false, .withoutEnd false, rest)
  | _ => none

def unterminated : String := "Syntax error: Unterminated quoted string"

/-- Reads the parts of a word; `parts` are those before, backwards.  Each step
uses up a character, so that a text is never longer than the fuel it needs. -/
def readParts : (fuel : Nat) → WordMode → (parts : List WordPart) → List Char →
    Except String (List WordPart × List Char)
  | 0, _, _, _ => .error unterminated
  | fuel + 1, mode, parts, text =>
    let quoted := mode.isQuoted
    let goOn (parts : List WordPart) (rest : List Char) :=
      readParts fuel mode parts rest
    match text with
    | [] => if mode = .double then .error unterminated
        else .ok (parts.reverse, [])
    | '\\' :: rest =>
      match rest with
      | [] =>
        if mode = .double then .error unterminated
        else .ok ((addCharacter true '\\' parts).reverse, [])
      | '\n' :: rest => goOn parts rest
      | c :: rest =>
        let escapes := !quoted || c == '$' || c == '\x60' || c == '\\' ||
          (c == '\x22' && mode != .document) ||
            (c == '\x7d' && mode == .operand true)
        if escapes then goOn (addCharacter true c parts) rest
        else goOn (addCharacter true '\\' parts) (c :: rest)
    | '$' :: '(' :: '(' :: rest =>
      match spanClosed? [.paren, .paren] [] rest with
      | none => .error "Syntax error: Missing '))'"
      | some (inside, rest) => do
        let (expression, _) ← readParts fuel (.operand true) [] inside.dropLast
        goOn (.arithmetic expression quoted :: parts) rest
    | '$' :: '(' :: rest =>
      match spanClosed? [.paren] [] rest with
      | none => .error "Syntax error: end of file unexpected (expecting \")\")"
      | some (inside, rest) =>
        goOn (.output (String.ofList inside) quoted :: parts) rest
    | '$' :: '\x7b' :: rest =>
      match spanClosed? [.brace] [] rest with
      | none => .error "Syntax error: Missing '\x7d'"
      | some (inside, rest) => do
        let part ← readBraced fuel quoted inside
        goOn (part :: parts) rest
    | '$' :: rest =>
      let (name, behind) := spanParameter rest
      match name with
      | [] => goOn (addCharacter quoted '$' parts) rest
      | c :: others =>
        if c.isDigit then
          let part :=
            WordPart.parameter (String.singleton c) .value false [] quoted
          goOn (part :: parts) (others ++ behind)
        else
          goOn (.parameter (String.ofList name) .value false [] quoted ::
            parts) behind
    | c :: rest =>
      if c = '\x60' then
        match spanBack? [] rest with
        | none => .error "Syntax error: EOF in backquote substitution"
        | some (inside, rest) =>
          goOn
            (.output (String.ofList (unescapeBack quoted inside)) quoted ::
              parts) rest
      else if c = '\x22' && mode = .double then .ok (parts.reverse, rest)
      else if c = '\x22' && mode = .operand true then goOn parts rest
      else if c = '\x22' && mode != .document then do
        let (inner, rest) ← readParts fuel .double [] rest
        let inner := if inner.isEmpty then [WordPart.text "" true] else inner
        goOn (inner.reverse ++ parts) rest
      else if c = '\x27' && !quoted then
        let inside := rest.takeWhile (· != '\x27')
        match rest.dropWhile (· != '\x27') with
        | [] => .error unterminated
        | _ :: rest => goOn (.text (String.ofList inside) true :: parts) rest
      else if mode = .word && endsWord c then .ok (parts.reverse, c :: rest)
      else goOn (addCharacter quoted c parts) rest
where
  /-- Reads what stands between the braces of a parameter. -/
  readBraced (fuel : Nat) (quoted : Bool)
    (inside : List Char) : Except String WordPart :=
    match inside with
    | '#' :: c :: rest =>
      let (name, behind) := spanParameter (c :: rest)
      if !name.isEmpty && behind.isEmpty then
        .ok (.parameter (String.ofList name) .length false [] quoted)
      else readUse fuel quoted inside
    | _ => readUse fuel quoted inside
  readUse (fuel : Nat) (quoted : Bool)
    (inside : List Char) : Except String WordPart :=
    let (name, behind) := spanParameter inside
    if behind = [':'] then .error "Syntax error: Missing '\x7d'"
    else
      match parameterUse? behind with
      | none => .ok unknown
      | some (emptyIsMissing, use, operand) =>
        if name.isEmpty then .ok unknown
        else do
          let mode := if use.isTrimming then WordMode.operand false
            else .operand quoted
          let (operand, _) ← readParts fuel mode [] operand
          .ok
            (.parameter (String.ofList name) use emptyIsMissing operand quoted)
  unknown : WordPart := .parameter "" .unknown false [] false

/-- Reads a whole text as the parts of one word. -/
def readText (mode : WordMode) (text : List Char) : Except String Word :=
  (readParts (text.length + 1) mode [] text).map Prod.fst

end JobShell.Script
