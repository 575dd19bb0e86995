import JobShell.Text.Blank
import JobShell.Line.Token

/-!
# Incremental lexer

The lexer takes one line at a time.  A line that ends inside quotes, behind a
backslash or behind a relation that awaits a command asks for another line, and
the lexer remembers where it stands.
-/

namespace JobShell

/-- Where the lexer stands between two characters. -/
inductive LexerMode where
  | normal
  /-- Behind a backslash outside quotes. -/
  | escaped
  | singleQuote
  | doubleQuote
  /-- Behind a backslash between double quotes. -/
  | doubleQuoteEscaped
  | backQuote
  deriving DecidableEq, Repr, Inhabited

/-- What a line gives. -/
inductive Feed where
  | complete (tokens : List Token)
  | needsMore
  deriving DecidableEq, Repr

/-- `inWord` tells an empty word from no word; `wordBeforeEscape` is its value
before the last backslash outside quotes. -/
structure Lexer where
  mode : LexerMode
  tokens : List Token
  word : String
  inWord : Bool
  wordBeforeEscape : Bool
  deriving DecidableEq, Repr

namespace Lexer

def fresh : Lexer :=
  { mode := .normal, tokens := [], word := "", inWord := false,
    wordBeforeEscape := false }

instance : Inhabited Lexer := ⟨fresh⟩

def push (lexer : Lexer) (c : Char) : Lexer :=
  { lexer with inWord := true, word := lexer.word.push c }

def endWord (lexer : Lexer) : Lexer :=
  if lexer.inWord then
    { lexer with
      tokens := lexer.tokens ++ [.word lexer.word], word := "",
      inWord := false }
  else
    lexer

def addRelation (lexer : Lexer) (relation : Relation) : Lexer :=
  let lexer := lexer.endWord
  { lexer with tokens := lexer.tokens ++ [.relation relation] }

/-- The characters that a backslash between double quotes takes along without
being kept itself. -/
def escapesInDoubleQuotes (c : Char) : Bool :=
  c == '$' || c == '\x60' || c == '\x22' || c == '\\'

/-- One character that begins no relation. -/
def scanChar (lexer : Lexer) (c : Char) : Lexer :=
  match lexer.mode with
  | .normal =>
    if isBlank c then lexer.endWord
    else if c = '\\' then
      { lexer with
        wordBeforeEscape := lexer.inWord, inWord := true, mode := .escaped }
    else if c = '\x27' then { lexer with inWord := true, mode := .singleQuote }
    else if c = '\x22' then { lexer with inWord := true, mode := .doubleQuote }
    else if c = '\x60' then { lexer.push c with mode := .backQuote }
    else lexer.push c
  | .escaped => { lexer.push c with mode := .normal }
  | .singleQuote => if c = '\x27' then { lexer with mode := .normal }
      else lexer.push c
  | .doubleQuote =>
    if c = '\x22' then { lexer with mode := .normal }
    else if c = '\\' then { lexer with mode := .doubleQuoteEscaped }
    else lexer.push c
  | .doubleQuoteEscaped =>
    let lexer := if escapesInDoubleQuotes c then lexer else lexer.push '\\'
    { lexer.push c with mode := .doubleQuote }
  | .backQuote =>
    let lexer := lexer.push c
    if c = '\x60' then { lexer with mode := .normal } else lexer

/-- The relation that the lexer sees at the start of a text; only outside
quotes is there one. -/
def relationAt? (lexer : Lexer)
    (text : List Char) : Option (Relation × List Char) :=
  if lexer.mode = .normal then Relation.read? text else none

theorem length_of_relationAt? {lexer : Lexer} {text rest : List Char}
    {relation : Relation}
    (found : lexer.relationAt? text = some (relation, rest)) :
    rest.length < text.length := by
  unfold relationAt? at found
  split at found
  · exact Relation.length_of_read? found
  · simp at found

def scan (lexer : Lexer) (text : List Char) : Lexer :=
  match text with
  | [] => lexer
  | c :: rest =>
    match found : lexer.relationAt? (c :: rest) with
    | some (relation, behind) =>
      have _shorter := length_of_relationAt? found
      scan (lexer.addRelation relation) behind
    | none => scan (lexer.scanChar c) rest
termination_by text.length
decreasing_by
  · assumption
  · exact Nat.lt_succ_self rest.length

/-- The tokens end in a relation that awaits a command. -/
def awaitsCommand (tokens : List Token) : Bool :=
  match tokens.getLast? with
  | some (.relation relation) => relation.awaitsCommand
  | _ => false

def endOfLine (lexer : Lexer) : Except LineError Feed × Lexer :=
  match lexer.mode with
  | .normal =>
    let lexer := lexer.endWord
    match Token.checkPlacement lexer.tokens false with
    | .error error => (.error error, fresh)
    | .ok () =>
      if awaitsCommand lexer.tokens then (.ok .needsMore, lexer)
      else (.ok (.complete lexer.tokens), { lexer with tokens := [] })
  | .escaped =>
    (.ok .needsMore,
      { lexer with inWord := lexer.wordBeforeEscape, mode := .normal })
  | .doubleQuoteEscaped => (.ok .needsMore, { lexer with mode := .doubleQuote })
  | .singleQuote | .doubleQuote | .backQuote =>
    (.ok .needsMore, lexer.push '\n')

/-- Takes one line. -/
def feed (lexer : Lexer) (line : String) : Except LineError Feed × Lexer :=
  (lexer.scan line.toList).endOfLine

/-- The input has ended: what is open now stays open. -/
def finish (lexer : Lexer) : Except LineError (List Token) × Lexer :=
  let outcome : Except LineError (List Token) :=
    match lexer.mode with
    | .normal =>
      let tokens := lexer.endWord.tokens
      (Token.checkPlacement tokens true).map fun _ => tokens
    | .singleQuote => .error (.unclosed .singleQuote)
    | .doubleQuote | .doubleQuoteEscaped => .error (.unclosed .doubleQuote)
    | .backQuote => .error (.unclosed .backQuote)
    | .escaped => .error (.unclosed .backslash)
  (outcome, fresh)

end Lexer

end JobShell
