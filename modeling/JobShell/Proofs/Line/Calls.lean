import JobShell.Proofs.Line.Idle

/-!
# Calls of a lexer

What somebody can learn about a lexer by calling it.  Lexers that are alike give
the same answers to the same calls, in whatever order the calls come.
-/

namespace JobShell.Lexer

inductive Query where
  | feed (line : String)
  | finish
  | reset
  deriving DecidableEq, Repr

inductive Answer where
  | fed (outcome : Except LineError Feed)
  | finished (outcome : Except LineError (List Token))
  | forgotten

def ask (lexer : Lexer) : Query → Answer × Lexer
  | .feed line => (.fed (lexer.feed line).1, (lexer.feed line).2)
  | .finish => (.finished lexer.finish.1, lexer.finish.2)
  | .reset => (.forgotten, fresh)

/-- The answers to calls that are made one after the other. -/
def answers (lexer : Lexer) : List Query → List Answer
  | [] => []
  | query :: rest => (lexer.ask query).1 :: (lexer.ask query).2.answers rest

/-- The lexer after it has taken some lines. -/
def fed (lexer : Lexer) (lines : List String) : Lexer :=
  lines.foldl (fun lexer line => (lexer.feed line).2) lexer

variable {lexer other : Lexer}

theorem fed_concat (lexer : Lexer) (lines : List String) (line : String) :
    lexer.fed (lines ++ [line]) = ((lexer.fed lines).feed line).2 :=
  List.foldl_append ..

theorem Alike.ask (alike : lexer.Alike other) (query : Query) :
    (other.ask query).1 = (lexer.ask query).1 ∧
      (lexer.ask query).2.Alike (other.ask query).2 := by
  cases query with
  | feed line =>
      obtain ⟨same, later⟩ := alike.feed line
      exact ⟨congrArg Answer.fed same, later⟩
  | finish =>
      unfold Lexer.ask
      rw [alike.finish]
      exact ⟨rfl, .refl _⟩
  | reset => exact ⟨rfl, .refl fresh⟩

/-- No calls tell lexers apart that are alike. -/
theorem Alike.answers (alike : lexer.Alike other) (queries : List Query) :
    other.answers queries = lexer.answers queries := by
  induction queries generalizing lexer other with
  | nil => rfl
  | cons query queries induction =>
      obtain ⟨same, later⟩ := alike.ask query
      unfold Lexer.answers
      rw [same, induction later]

end JobShell.Lexer
