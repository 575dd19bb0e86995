import JobShell.Text.Blank
import JobShell.Text.Bytes
import JobShell.Line.Relation

/-!
# The word at the cursor

What is to be completed is the word in front of the cursor.  What it may become
depends on where it stands: a program behind the start of a command, a file
behind a slash, a variable behind `$`, and else a name in the working directory.
-/

namespace JobShell

/-- Kinds of candidates, as a set. -/
structure Categories where
  files : Bool
  programs : Bool
  variableNames : Bool
  hereNames : Bool
  deriving DecidableEq, Repr

namespace Categories

def none : Categories :=
  { files := false, programs := false, variableNames := false,
    hereNames := false }

def onlyFiles : Categories := { none with files := true }

def onlyPrograms : Categories := { none with programs := true }

def onlyVariables : Categories := { none with variableNames := true }

def onlyHereNames : Categories := { none with hereNames := true }

end Categories

/-- The word to complete, and the byte position where it begins. -/
structure CursorContext where
  start : Nat
  typed : List Char
  categories : Categories
  deriving DecidableEq, Repr

namespace CursorContext

/-- Words end at blank characters and at relations. -/
def endsWord (c : Char) : Bool := isBlank c || startsSymbol c

/-- The last word of a text; it is empty behind a character that ends words. -/
def lastWord (text : List Char) : List Char :=
  (text.reverse.takeWhile fun c => !endsWord c).reverse

/-- The text in front of its last word. -/
def beforeLastWord (text : List Char) : List Char :=
  (text.reverse.dropWhile fun c => !endsWord c).reverse

theorem beforeLastWord_append_lastWord (text : List Char) :
    beforeLastWord text ++ lastWord text = text := by
  simp only [beforeLastWord, lastWord]
  rw [← List.reverse_append, List.takeWhile_append_dropWhile,
    List.reverse_reverse]

theorem not_endsWord_of_mem_lastWord {text : List Char} {c : Char}
    (member : c ∈ lastWord text) : endsWord c = false := by
  have kept :=
    List.all_takeWhile (p := fun c => !endsWord c) (l := text.reverse)
  simpa using List.all_eq_true.1 kept c (List.mem_reverse.1 member)

/-- What stands in front of the last word ends in a character that ends
words. -/
theorem endsWord_of_getLast?_beforeLastWord {text : List Char} {c : Char}
    (last : (beforeLastWord text).getLast? = some c) : endsWord c = true := by
  rw [beforeLastWord, List.getLast?_reverse] at last
  have stopped := List.head?_dropWhile_not (fun c => !endsWord c) text.reverse
  simpa [last] using stopped

/-- Where the word in front of a position begins; `none` when the position is
no place to cut the line. -/
def wordStart? (line : List Char) (position : Nat) : Option Nat :=
  (Text.cutAt? line position).map fun parts =>
    Text.byteLength (beforeLastWord parts.1)

/-- The relation at the end of a text: all of the last operator characters when
they make one, or else the last of them. -/
def trailingRelation? (text : List Char) : Option Relation :=
  let symbol := (text.reverse.takeWhile startsSymbol).reverse
  (Relation.ofSymbol? (String.ofList symbol)).or
    (symbol.getLast?.bind fun last => Relation.ofSymbol? (String.ofList [last]))

/-- Whether a command begins behind this text. -/
def startsCommand (before : List Char) : Bool :=
  let before := Text.trimEnd before
  before.isEmpty ||
    match trailingRelation? before with
    | some relation => relation.isJoin || relation == .background
    | none => false

def namesVariable (typed : List Char) : Bool :=
  typed.head? == some '$' &&
    Relation.completionDictionary.longestMatch typed == some 1

def categoriesOf (before typed : List Char) : Categories :=
  if namesVariable typed then .onlyVariables
  else if typed.contains '/' then .onlyFiles
  else if startsCommand before then .onlyPrograms
  else .onlyHereNames

/-- The context at a position; a position beyond the end means the end. -/
def at? (line : List Char) (position : Nat) : Option CursorContext :=
  (Text.cutAt? line (min position (Text.byteLength line))).map fun parts =>
    let before := beforeLastWord parts.1
    let typed := lastWord parts.1
    { start := Text.byteLength before, typed,
      categories := categoriesOf before typed }

end CursorContext

end JobShell
