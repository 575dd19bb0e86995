import JobShell.PrefixIndex

/-!
# Relations between the commands of a line

The operators of the command language: redirections, the joins between
commands, and the mark of a background line.
-/

namespace JobShell

inductive Relation where
  | redirectIn
  | redirectOut
  | redirectAppend
  | semi
  | pipe
  | or
  | background
  | and
  deriving DecidableEq, Repr, Inhabited

namespace Relation

def symbol : Relation → String
  | redirectIn => "<"
  | redirectOut => ">"
  | redirectAppend => ">>"
  | semi => ";"
  | pipe => "|"
  | or => "||"
  | background => "&"
  | and => "&&"

def all : List Relation :=
  [redirectOut, redirectAppend, redirectIn, semi, pipe, or, background, and]

def ofSymbol? (symbol : String) : Option Relation :=
  all.find? fun relation => relation.symbol == symbol

theorem ofSymbol?_symbol (relation : Relation) :
    ofSymbol? relation.symbol = some relation := by
  cases relation <;> decide

def isRedirect : Relation → Bool
  | redirectIn | redirectOut | redirectAppend => true
  | _ => false

/-- The relations that stand between two commands. -/
def isJoin : Relation → Bool
  | semi | pipe | or | and => true
  | _ => false

/-- A line that ends in one of these goes on in the next line. -/
def awaitsCommand : Relation → Bool
  | pipe | or | and => true
  | _ => false

/-- The relation with the longest symbol at the start of a text, and the text
behind that symbol. -/
def read? : List Char → Option (Relation × List Char)
  | '>' :: '>' :: rest => some (redirectAppend, rest)
  | '>' :: rest => some (redirectOut, rest)
  | '<' :: rest => some (redirectIn, rest)
  | ';' :: rest => some (semi, rest)
  | '|' :: '|' :: rest => some (or, rest)
  | '|' :: rest => some (pipe, rest)
  | '&' :: '&' :: rest => some (and, rest)
  | '&' :: rest => some (background, rest)
  | _ => none

theorem text_of_read? {text rest : List Char} {relation : Relation}
    (found : read? text = some (relation, rest)) :
    text = relation.symbol.toList ++ rest := by
  unfold read? at found
  split at found <;> simp_all <;> obtain ⟨rfl, rfl⟩ := found <;> rfl

theorem symbol_length_pos (relation : Relation) :
    0 < relation.symbol.toList.length := by
  cases relation <;> decide

theorem length_of_read? {text rest : List Char} {relation : Relation}
    (found : read? text = some (relation, rest)) :
    rest.length < text.length := by
  have nonempty := relation.symbol_length_pos
  rw [text_of_read? found, List.length_append]
  omega

/-- The relations by their symbols. -/
def dictionary : PrefixIndex :=
  PrefixIndex.ofWords (all.map symbol)

/-- The symbols that matter to completion: the relations and the sign of a
variable. -/
def completionDictionary : PrefixIndex :=
  PrefixIndex.ofWords (all.map symbol ++ ["$"])

end Relation

/-- Whether a relation can begin with this character. -/
def startsSymbol (c : Char) : Bool :=
  c == '>' || c == '<' || c == ';' || c == '|' || c == '&'

end JobShell
