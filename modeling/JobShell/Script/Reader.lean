import JobShell.Text.Lines
import JobShell.Text.Numeral
import JobShell.Script.WordReader

/-!
# Reading scripts

A script is read one complete command at a time: what stands on a line, and on
as many more lines as the statements that have begun on it need.
-/

namespace JobShell.Script

/-- What cannot be read, and where. -/
structure Fault where
  line : Nat
  message : String
  deriving DecidableEq, Repr

/-- What is left of a script.  `skipped` counts lines behind the present one
that have been taken already, as documents. -/
structure Reader where
  rest : List Char
  line : Nat
  skipped : Nat
  deriving DecidableEq, Repr

inductive Token where
  | finish
  | newline
  | symbol (text : String)
  /-- A number directly in front of a redirection. -/
  | number (value : Nat)
  | word (word : Word)
  deriving Inhabited

abbrev Reading := StateT Reader (Except Fault)

namespace Reader

def ofText (text : String) : Reader :=
  { rest := text.toList, line := 1, skipped := 0 }

/-- The text without the blanks, the joined lines and the comment at its
start. -/
def skipBlanks (fuel : Nat) (reader : Reader) : Reader :=
  match fuel, reader.rest with
  | 0, _ => reader
  | fuel + 1, '\\' :: '\n' :: rest =>
    skipBlanks fuel { rest, line := reader.line + 1 + reader.skipped,
                      skipped := 0 }
  | fuel + 1, c :: rest =>
    if c = ' ' || c = '\t' then skipBlanks fuel { reader with rest }
    else if c = '#' then { reader with rest := rest.dropWhile (· != '\n') }
    else reader
  | _, [] => reader

/-- The operators, longer ones first. -/
def symbols : List String :=
  ["<<-", "&&", "||", ";;", "<<", "<&", "<>", ">>", ">&", ">|", ";", "&", "|",
    "<", ">", "(", ")"]

def isRedirection (symbol : String) : Bool :=
  symbol.toList.head? == some '<' || symbol.toList.head? == some '>'

/-- Goes on behind some text, which may hold line feeds. -/
def advance (reader : Reader) (rest : List Char) : Reader :=
  let passed := reader.rest.take (reader.rest.length - rest.length)
  { reader with rest, line := reader.line + passed.count '\n' }

/-- The token at the start of a text, and what is left behind it. -/
def next (reader : Reader) : Except Fault (Token × Reader) :=
  let reader := reader.skipBlanks (reader.rest.length + 1)
  let digits := reader.rest.takeWhile Char.isDigit
  let behind := reader.rest.drop digits.length
  match reader.rest, symbols.find? fun symbol =>
    symbol.toList.isPrefixOf reader.rest with
  | [], _ => .ok (.finish, reader)
  | '\n' :: rest, _ =>
    .ok (.newline, { rest, line := reader.line + 1 + reader.skipped,
                     skipped := 0 })
  | text, some symbol =>
    .ok (.symbol symbol, { reader with rest := text.drop symbol.length })
  | text, none =>
    if !digits.isEmpty &&
      (behind.head? == some '<' || behind.head? == some '>') then
        .ok (.number ((Text.parseWord64? (String.ofList digits)).getD 0),
          { reader with rest := behind })
    else
      match readParts (text.length + 1) .word [] text with
      | .error message =>
        -- What is missing has been looked for up to the end.
        .error { line := reader.line + reader.rest.count '\n', message }
      | .ok (word, rest) => .ok (.word word, reader.advance rest)

end Reader

namespace Token

/-- The text of a word that holds no quotes and no expansions. -/
def plain? : Token → Option String
  | .word [.text content false] => some content
  | _ => none

/-- The words that are no commands where a command is expected. -/
def reserved : List String :=
  ["!", "case", "do", "done", "elif", "else", "esac", "fi", "for", "if", "then",
    "until", "while", "\x7b", "\x7d"]

/-- The commands that no function can have the name of. -/
def special : List String :=
  [".", ":", "break", "continue", "eval", "exec", "exit", "export", "local",
    "readonly", "return", "set", "shift", "times", "trap", "unset"]

/-- The reserved words that end a list. -/
def closers : List String :=
  ["do", "done", "elif", "else", "esac", "fi", "then", "\x7d"]

/-- How a token is called in a complaint. -/
def shown : Token → String
  | .finish => "end of file"
  | .newline => "newline"
  | .symbol text => if Reader.isRedirection text then "redirection"
      else quoted text
  | .number _ => "redirection"
  | .word content =>
    match plain? (.word content) with
    | some text => if reserved.contains text then quoted text else "word"
    | none => "word"
where
  quoted (text : String) : String := "\x22" ++ text ++ "\x22"

/-- Whether a token ends a list. -/
def endsList : Token → Bool
  | .finish => true
  | .symbol text => text == ")" || text == ";;"
  | token => ((token.plain?).map closers.contains).getD false

end Token

namespace Reading

def take : Reading Token := fun reader => reader.next

/-- The next token, which stays where it is. -/
def peek : Reading Token := fun reader => do
  let (token, _) ← reader.next
  pure (token, reader)

/-- Complains about the next token. -/
def unexpected {α : Type} (expected : Option String) : Reading α := do
  let token ← take
  let line := (← get).line
  let text := "Syntax error: " ++ token.shown ++ " unexpected" ++
    match expected with
    | some text =>
      " (expecting " ++
        (if text = "word" then text else "\x22" ++ text ++ "\x22") ++ ")"
    | none => ""
  throw { line, message := text }

/-- Complains about what has been read so far. -/
def complain {α : Type} (text : String) : Reading α := do
  throw { line := (← get).line, message := "Syntax error: " ++ text }

def peekSymbol (symbol : String) : Reading Bool := do
  match ← peek with
  | .symbol text => pure (text == symbol)
  | _ => pure false

def peekWord (text : String) : Reading Bool := do
  pure ((← peek).plain? == some text)

def expectWord (text : String) : Reading Unit := do
  if ← peekWord text then discard take else unexpected (some text)

def expectSymbol (symbol : String) : Reading Unit := do
  if ← peekSymbol symbol then discard take else unexpected (some symbol)

def skipNewlines : (fuel : Nat) → Reading Unit
  | 0 => pure ()
  | fuel + 1 => do
    match ← peek with
    | .newline => discard take; skipNewlines fuel
    | _ => pure ()

/-- A number of steps that is enough for what is left of the script. -/
def enough : Reading Nat := do pure (8 * ((← get).rest.length + 2))

/-- The text of the word that ends a document, and whether a part of it is
quoted. -/
def delimiterOf (word : Word) : String × Bool :=
  (String.join (word.map fun part =>
      match part with
      | .text content _ => content
      | .parameter name .. => "$" ++ name
      | _ => ""),
    word.any fun part =>
      match part with
      | .text _ quoted => quoted
      | _ => false)

/-- The lines of a document up to its delimiter, each with the line feed that
ends it, and the number of all that are taken. -/
def documentLines (delimiter : List Char) (strip : Bool) : List (List Char) →
    List (List Char) × Nat
  | [] => ([], 0)
  | line :: rest =>
    let line := if strip then line.dropWhile (· == '\t') else line
    if line = delimiter ++ ['\n'] || line = delimiter then ([], 1)
    else
      let (lines, count) := documentLines delimiter strip rest
      (line :: lines, count + 1)

/-- The lines of a text with their line feeds. -/
def linesWithEnds : (fuel : Nat) → List Char → List (List Char)
  | 0, _ => []
  | _, [] => []
  | fuel + 1, text =>
    let line := text.takeWhile (· != '\n')
    match text.drop line.length with
    | [] => [line]
    | _ :: rest => (line ++ ['\n']) :: linesWithEnds fuel rest

/-- Takes a document from behind the present line. -/
def document (strip : Bool) (delimiter : Word) : Reading Word := do
  let reader ← get
  let (text, quoted) := delimiterOf delimiter
  let present := reader.rest.takeWhile (· != '\n')
  let lines :=
    linesWithEnds (reader.rest.length + 1)
      (reader.rest.drop (present.length + 1))
  let (body, count) := documentLines text.toList strip lines
  let left := (lines.drop count).flatten
  set { reader with
    rest := present ++ '\n' :: left, skipped := reader.skipped + count }
  let content := body.flatten
  if quoted then pure [.text (String.ofList content) true]
  else
    match readText .document content with
    | .ok word => pure word
    | .error message => throw { line := reader.line, message }

def takeWord (expected : Option String) : Reading Word := do
  match ← peek with
  | .word word => discard take; pure word
  | _ => unexpected expected

/-- Reads a redirection of a descriptor, whose symbol comes next. -/
def redirect (descriptor : Option Nat) : Reading Redirect := do
  match ← take with
  | .symbol symbol =>
    let target ← takeWord none
    let made (kind : RedirectKind) (usual : Nat) : Redirect :=
      { descriptor := descriptor.getD usual, kind, target }
    match symbol with
    | "<" => pure (made .input 0)
    | ">" | ">|" => pure (made .output 1)
    | "<>" => pure (made .both 0)
    | ">>" => pure (made .append 1)
    | "<&" => pure (made .descriptor 0)
    | ">&" => pure (made .descriptor 1)
    | symbol =>
      let content ← document (symbol == "<<-") target
      pure { descriptor := descriptor.getD 0, kind := .document,
             target := content }
  | _ => unexpected none

/-- Reads the redirections that come next. -/
def redirects : (fuel : Nat) → Reading (List Redirect)
  | 0 => pure []
  | fuel + 1 => do
    match ← peek with
    | .number value => do
      discard take
      pure ((← redirect (some value)) :: (← redirects fuel))
    | .symbol symbol =>
      if Reader.isRedirection symbol then
        pure ((← redirect none) :: (← redirects fuel))
      else pure []
    | _ => pure []

/-- The name and the value of an assignment. -/
def assignment? (word : Word) : Option (String × Word) :=
  match word with
  | .text content false :: rest =>
    let name := content.toList.takeWhile isNameCharacter
    match content.toList.drop name.length with
    | '=' :: value =>
      if isName name then
        let front := if value.isEmpty then []
          else [WordPart.text (String.ofList value) false]
        some (String.ofList name, front ++ rest)
      else none
    | _ => none
  | _ => none

/-- The words, assignments and redirections of a simple command, as far as they
have been read. -/
structure Parts where
  assignments : List (String × Word)
  words : List Word
  redirects : List Redirect

def Parts.isEmpty (parts : Parts) : Bool :=
  parts.assignments.isEmpty && parts.words.isEmpty && parts.redirects.isEmpty

/-- Reads the parts of a simple command. -/
def simpleParts : (fuel : Nat) → Parts → Reading Parts
  | 0, parts => pure parts
  | fuel + 1, parts => do
    match ← peek with
    | .word word =>
      discard take
      match if parts.words.isEmpty then assignment? word else none with
      | some found =>
        simpleParts fuel
          { parts with assignments := parts.assignments ++ [found] }
      | none => simpleParts fuel { parts with words := parts.words ++ [word] }
    | .number _ =>
      let found ← redirects 1
      simpleParts fuel { parts with redirects := parts.redirects ++ found }
    | .symbol symbol =>
      if Reader.isRedirection symbol then
        let found ← redirects 1
        simpleParts fuel { parts with redirects := parts.redirects ++ found }
      else pure parts
    | _ => pure parts

/-- The words up to the end of the line or a semicolon. -/
def wordsToEnd : (fuel : Nat) → Reading (List Word)
  | 0 => pure []
  | fuel + 1 => do
    match ← peek with
    | .word word => discard take; pure (word :: (← wordsToEnd fuel))
    | _ => pure []

/-- The patterns of a clause, up to the bracket behind them.  Something that is
no word is noticed only when no bracket follows. -/
def patterns : (fuel : Nat) → Reading (List Word)
  | 0 => unexpected (some ")")
  | fuel + 1 => do
    let word : Word := match ← take with
      | .word word => word
      | _ => []
    if ← peekSymbol "|" then
      discard take
      pure (word :: (← patterns fuel))
    else
      expectSymbol ")"
      pure [word]

/-- Puts statements one behind the other. -/
def join : Statement → Statement → Statement
  | .nothing, second => second
  | first, second => .sequence first second

mutual

/-- Reads statements up to something that ends a list. -/
def list : (fuel : Nat) → Reading Statement
  | 0 => unexpected none
  | fuel + 1 => do
    skipNewlines (← enough)
    if (← peek).endsList then pure .nothing
    else
      let first ← conjunction fuel
      match ← peek with
      | .symbol ";" => discard take; pure (join first (← list fuel))
      | .symbol "&" =>
        discard take; pure (join (.background first) (← list fuel))
      | .newline => pure (join first (← list fuel))
      | _ => pure first

/-- Reads a list that must not be empty.  What is missing at the end of the
script is left to whoever needs the end of the list. -/
def listOf : (fuel : Nat) → Reading Statement
  | 0 => unexpected none
  | fuel + 1 => do
    skipNewlines (← enough)
    match ← peek with
    | .finish => pure .nothing
    | token => if token.endsList then unexpected none else list fuel

/-- Reads pipelines that depend on one another. -/
def conjunction : (fuel : Nat) → Reading Statement
  | 0 => unexpected none
  | fuel + 1 => do conjunctionBehind fuel (← pipeline fuel)

def conjunctionBehind : (fuel : Nat) → Statement → Reading Statement
  | 0, _ => unexpected none
  | fuel + 1, first => do
    match ← peek with
    | .symbol "&&" =>
      discard take
      skipNewlines (← enough)
      conjunctionBehind fuel (.andThen first (← pipeline fuel))
    | .symbol "||" =>
      discard take
      skipNewlines (← enough)
      conjunctionBehind fuel (.orElse first (← pipeline fuel))
    | _ => pure first

def pipeline : (fuel : Nat) → Reading Statement
  | 0 => unexpected none
  | fuel + 1 => do
    let negated ← peekWord "!"
    if negated then discard take
    let body := match ← stages fuel with
      | [only] => only
      | several => .pipeline several
    pure (if negated then .negation body else body)

def stages : (fuel : Nat) → Reading (List Statement)
  | 0 => unexpected none
  | fuel + 1 => do
    let first ← command fuel
    if ← peekSymbol "|" then
      discard take
      skipNewlines (← enough)
      pure (first :: (← stages fuel))
    else pure [first]

/-- Reads one command with its redirections. -/
def command : (fuel : Nat) → Reading Statement
  | 0 => unexpected none
  | fuel + 1 => do
    match ← compound fuel with
    | none => simple fuel
    | some statement =>
      let found ← redirects (← enough)
      pure (if found.isEmpty then statement else .redirected statement found)

/-- Reads a command that is made of lists, if one comes next. -/
def compound : (fuel : Nat) → Reading (Option Statement)
  | 0 => unexpected none
  | fuel + 1 => do
    let token ← peek
    match token, token.plain? with
    | .symbol "(", _ =>
      discard take
      let body ← listOf fuel
      expectSymbol ")"
      pure (some (.subshell body))
    | _, some "\x7b" =>
      discard take
      let body ← listOf fuel
      expectWord "\x7d"
      pure (some body)
    | _, some "if" =>
      discard take
      pure (some (← choice fuel))
    | _, some "while" =>
      discard take
      let condition ← listOf fuel
      pure (some (.loop true condition (← doGroup fuel)))
    | _, some "until" =>
      discard take
      let condition ← listOf fuel
      pure (some (.loop false condition (← doGroup fuel)))
    | _, some "for" =>
      discard take
      pure (some (← forEach fuel))
    | _, some "case" =>
      discard take
      let subject ← takeWord (some "word")
      skipNewlines (← enough)
      expectWord "in"
      pure (some (.select subject (← clauses fuel)))
    | _, _ => pure none

/-- Reads what stands between `do` and `done`. -/
def doGroup : (fuel : Nat) → Reading Statement
  | 0 => unexpected none
  | fuel + 1 => do
    expectWord "do"
    let body ← listOf fuel
    expectWord "done"
    pure body

/-- Reads a choice behind its first word. -/
def choice : (fuel : Nat) → Reading Statement
  | 0 => unexpected none
  | fuel + 1 => do
    let condition ← listOf fuel
    expectWord "then"
    let consequence ← listOf fuel
    if ← peekWord "elif" then
      discard take
      pure (.choice condition consequence (← choice fuel))
    else if ← peekWord "else" then
      discard take
      let alternative ← listOf fuel
      expectWord "fi"
      pure (.choice condition consequence alternative)
    else
      expectWord "fi"
      pure (.choice condition consequence .nothing)

def forEach : (fuel : Nat) → Reading Statement
  | 0 => unexpected none
  | fuel + 1 => do
    match ((← peek).plain?).filter fun name => isName name.toList with
    | none =>
      discard take
      complain "Bad for loop variable"
    | some name =>
      discard take
      skipNewlines (← enough)
      if ← peekWord "in" then
        discard take
        let words ← wordsToEnd (← enough)
        match ← peek with
        | .newline | .symbol ";" => discard take
        | _ => unexpected none
        skipNewlines (← enough)
        pure (.forEach name (some words) (← doGroup fuel))
      else
        if ← peekSymbol ";" then discard take
        skipNewlines (← enough)
        pure (.forEach name none (← doGroup fuel))

/-- Reads clauses up to the word that ends the selection. -/
def clauses : (fuel : Nat) → Reading (List (List Word × Statement))
  | 0 => unexpected none
  | fuel + 1 => do
    skipNewlines (← enough)
    if ← peekWord "esac" then
      discard take
      pure []
    else
      if ← peekSymbol "(" then discard take
      let heads ← patterns (← enough)
      let body ← list fuel
      if ← peekSymbol ";;" then
        discard take
        pure ((heads, body) :: (← clauses fuel))
      else if ← peekWord "esac" then
        discard take
        pure [(heads, body)]
      else unexpected (some ";;")

/-- Reads a simple command, or the definition of a function. -/
def simple : (fuel : Nat) → Reading Statement
  | 0 => unexpected none
  | fuel + 1 => do
    let token ← peek
    if ((token.plain?).map Token.reserved.contains).getD false then
      unexpected none
    else
      let line := (← get).line
      let parts ← simpleParts (← enough) { assignments := [], words := [],
                                           redirects := [] }
      if parts.isEmpty then unexpected none
      else if ← peekSymbol "(" then
        match parts.words with
        | [word] =>
          if parts.assignments.isEmpty && parts.redirects.isEmpty then
            discard take
            expectSymbol ")"
            match Token.plain? (.word word) with
            | some name =>
              if isName name.toList && !Token.special.contains name then
                skipNewlines (← enough)
                pure (.define name (← command fuel))
              else complain "Bad function name"
            | none => complain "Bad function name"
          else unexpected none
        | _ => unexpected none
      else pure (.simple line parts.assignments parts.words parts.redirects)

end

/-- The statements of a line, and whether the script ends behind them. -/
def line : (fuel : Nat) → Statement → Reading (Statement × Bool)
  | 0, statement => pure (statement, false)
  | fuel + 1, statement => do
    match ← peek with
    | .newline => discard take; pure (statement, false)
    | .finish => pure (statement, true)
    | _ =>
      let first ← conjunction (← enough)
      match ← peek with
      | .symbol ";" => discard take; line fuel (join statement first)
      | .symbol "&" =>
        discard take; line fuel (join statement (.background first))
      | .newline | .finish => line fuel (join statement first)
      | _ => unexpected none

end Reading

/-- A complete command of a script. -/
structure Complete where
  statement : Statement
  atEnd : Bool
  rest : Reader

/-- Reads the next complete command; there is none at the end of the script. -/
def Reader.complete? (reader : Reader) : Except Fault (Option Complete) := do
  let (token, _) ← reader.next
  match token with
  | .finish => pure none
  | _ =>
    let ((statement, atEnd),
      rest) ← (Reading.line (reader.rest.length + 2) .nothing).run reader
    pure (some { statement, atEnd, rest })

end JobShell.Script
