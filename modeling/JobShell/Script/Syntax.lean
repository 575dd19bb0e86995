/-!
# Scripts

What the text of a script says: words with the expansions in them, and
statements made of words.
-/

namespace JobShell.Script

/-- What is wanted of a parameter. -/
inductive ParameterUse where
  | value
  | length
  /-- The operand in place of a missing value. -/
  | orElse
  /-- The same, and the parameter gets the operand as its value. -/
  | orAssign
  /-- A missing value is an error with the operand as its message. -/
  | orFail
  /-- The operand in place of a value that is there. -/
  | ifPresent
  | withoutStart (longest : Bool)
  | withoutEnd (longest : Bool)
  /-- What nobody knows. -/
  | unknown
  deriving DecidableEq, Repr

/-- Whether the operand is a pattern for a part of the value. -/
def ParameterUse.isTrimming : ParameterUse → Bool
  | withoutStart _ | withoutEnd _ => true
  | _ => false

/-- A part of a word.  What is quoted is neither split into fields nor taken for
a pattern. -/
inductive WordPart where
  | text (content : String) (quoted : Bool)
  /-- `emptyIsMissing` says that an empty value counts as a missing one. -/
  | parameter (name : String) (use : ParameterUse) (emptyIsMissing : Bool)
      (operand : List WordPart) (quoted : Bool)
  /-- The output of a script. -/
  | output (script : String) (quoted : Bool)
  | arithmetic (expression : List WordPart) (quoted : Bool)
  deriving Repr, Inhabited

abbrev Word := List WordPart

inductive RedirectKind where
  | input
  | output
  | append
  /-- For reading, of a file that is made when it is missing. -/
  | both
  /-- The other descriptor with the number that the target gives, or none for a
  dash. -/
  | descriptor
  /-- The target is the text to be read. -/
  | document
  deriving DecidableEq, Repr

structure Redirect where
  descriptor : Nat
  kind : RedirectKind
  target : Word
  deriving Repr

inductive Statement where
  | nothing
  | simple (line : Nat) (assignments : List (String × Word)) (words : List Word)
      (redirects : List Redirect)
  | sequence (first second : Statement)
  | background (body : Statement)
  | andThen (first second : Statement)
  | orElse (first second : Statement)
  | negation (body : Statement)
  | pipeline (stages : List Statement)
  | subshell (body : Statement)
  | redirected (body : Statement) (redirects : List Redirect)
  | choice (condition consequence alternative : Statement)
  /-- Goes on as long as the condition has the outcome that is `wanted`. -/
  | loop (wanted : Bool) (condition body : Statement)
  /-- Without words the parameters of the script are taken. -/
  | forEach (name : String) (words : Option (List Word)) (body : Statement)
  | select (subject : Word) (clauses : List (List Word × Statement))
  | define (name : String) (body : Statement)
  deriving Inhabited

end JobShell.Script
