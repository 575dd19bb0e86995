import JobShell.Line.Relation

/-!
# Tokens and the placement of relations
-/

namespace JobShell

inductive Token where
  | word (text : String)
  | relation (relation : Relation)
  deriving DecidableEq, Repr, Inhabited

/-- What stands open when the input ends. -/
inductive Unclosed where
  | singleQuote
  | doubleQuote
  | backQuote
  | backslash
  deriving DecidableEq, Repr

/-- Why a line is no command. -/
inductive LineError where
  | unexpected (relation : Relation)
  | missingTarget (relation : Relation)
  | endAfter (relation : Relation)
  | endOfInput
  | unclosed (mark : Unclosed)
  | nothingToCompile
  | nothingToExecute
  | other (text : String)
  deriving DecidableEq, Repr

namespace LineError

def message : LineError → String
  | unexpected relation => "unexpected token `" ++ relation.symbol ++ "'"
  | missingTarget relation => "missing target after `" ++ relation.symbol ++ "'"
  | endAfter relation =>
    "unexpected end of input after `" ++ relation.symbol ++ "'"
  | endOfInput => "unexpected end of input"
  | unclosed .singleQuote => "unexpected EOF while looking for matching `''"
  | unclosed .doubleQuote => "unexpected EOF while looking for matching `\"'"
  | unclosed .backQuote => "unexpected EOF while looking for matching ``'"
  | unclosed .backslash => "unexpected EOF after `\\'"
  | nothingToCompile => "no complete command to compile"
  | nothingToExecute => "no compiled command to execute"
  | other text => text

end LineError

namespace Token

/-- Whether `relation` may not follow what stands before it: the relation
`previous`, a word, or (`first`) nothing at all. -/
def isMisplaced (previous : Option Relation) (first : Bool)
    (relation : Relation) : Bool :=
  match previous with
  | some before => before.isRedirect || !relation.isRedirect
  | none => first && !relation.isRedirect

/-- Walks over the tokens; gives the relation at the end of them, if there is
one, or the first misplaced relation. -/
def lastRelation (previous : Option Relation) (first : Bool) :
    List Token → Except LineError (Option Relation)
  | [] => .ok previous
  | word _ :: rest => lastRelation none false rest
  | relation r :: rest =>
    if isMisplaced previous first r then .error (.unexpected r)
    else lastRelation (some r) false rest

/-- Checks that every relation stands where one can stand.  When more lines can
follow (`complete` is false), the tokens may end in a relation that awaits a
command. -/
def checkPlacement (tokens : List Token)
    (complete : Bool) : Except LineError Unit := do
  match ← lastRelation none true tokens with
  | none => pure ()
  | some r =>
    if r.isRedirect then throw (.missingTarget r)
    else if complete && r.awaitsCommand then throw (.endAfter r)
    else pure ()

end Token

end JobShell
