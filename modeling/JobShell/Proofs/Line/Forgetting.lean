import JobShell.Proofs.Line.Calls

/-!
# What a lexer forgets

A call closes the input when it gives a whole command or an error, and when it
ends the input or drops it.  Behind such a call the lexer need not be as it was
made, for it keeps what stood in front of its last backslash; but nothing that
is asked of it later brings to light what was read before.
-/

namespace JobShell.Lexer

/-- The answer says that no more lines are awaited. -/
def Answer.closes : Answer → Bool
  | .fed (.ok .needsMore) => false
  | .fed (.ok (.complete _)) | .fed (.error _) => true
  | .finished _ | .forgotten => true

/-- The lexer after calls that are made one after the other. -/
def asked (lexer : Lexer) (queries : List Query) : Lexer :=
  queries.foldl (fun lexer query => (lexer.ask query).2) lexer

theorem asked_concat (lexer : Lexer) (queries : List Query) (last : Query) :
    lexer.asked (queries ++ [last]) = ((lexer.asked queries).ask last).2 :=
  List.foldl_append ..

theorem answers_append (lexer : Lexer) (earlier later : List Query) :
    lexer.answers (earlier ++ later) =
      lexer.answers earlier ++ (lexer.asked earlier).answers later := by
  induction earlier generalizing lexer with
  | nil => rfl
  | cons query earlier induction =>
      rw [List.cons_append, answers, induction, answers]
      rfl

variable {lexer : Lexer} {query : Query}

theorem Reachable.ask (reachable : Reachable lexer) (query : Query) :
    Reachable (lexer.ask query).2 := by
  cases query with
  | feed line => exact .feed reachable line
  | finish => exact .finish reachable
  | reset => exact .fresh

theorem Reachable.asked (reachable : Reachable lexer) (queries : List Query) :
    Reachable (lexer.asked queries) := by
  induction queries generalizing lexer with
  | nil => exact reachable
  | cons query queries induction => exact induction (reachable.ask query)

/-- Behind a call that closes the input the lexer is idle. -/
theorem isIdle_of_closes (closes : (lexer.ask query).1.closes = true) :
    (lexer.ask query).2.IsIdle := by
  cases query with
  | feed line =>
      rw [ask] at closes ⊢
      cases outcome : (lexer.feed line).1 with
      | error error =>
          rw [feed_of_error outcome]
          exact .fresh
      | ok fed =>
          cases fed with
          | complete tokens => exact isIdle_of_complete outcome
          | needsMore =>
              rw [outcome] at closes
              cases closes
  | finish => exact .fresh
  | reset => exact .fresh

/-- Whatever calls come behind one that has closed the input, their answers are
those of a new lexer. -/
theorem answers_behind_closed (history : List Query) (last : Query)
    (closes : ((fresh.asked history).ask last).1.closes = true)
    (later : List Query) :
    ((fresh.asked history).ask last).2.answers later = fresh.answers later ∧
      fresh.answers (history ++ last :: later) =
        fresh.answers (history ++ [last]) ++ fresh.answers later := by
  have reachable := (Reachable.fresh.asked history).ask last
  have alike := (isIdle_of_closes closes).alike_fresh reachable
  have same := alike.answers later
  refine ⟨same, ?_⟩
  rw [List.append_cons, answers_append, asked_concat, same]

/-- A command that was split inside a word: its lexer still knows that it stood
in a word. -/
theorem answers_behind_closed_splitWord :
    ((fresh.asked [.feed "echo a\\"]).ask (.feed "b")).1.closes = true ∧
    ((fresh.asked [.feed "echo a\\"]).ask (.feed "b")).2 ≠ fresh ∧
    ((fresh.asked [.feed "echo a\\"]).ask (.feed "b")).2.answers
      [.feed "\\", .feed "c", .finish] =
      fresh.answers [.feed "\\", .feed "c", .finish] := by
  have closes : ((fresh.asked [.feed "echo a\\"]).ask (.feed "b")).1.closes =
      true := by cbv
  have remembers :
      ((fresh.asked [.feed "echo a\\"]).ask (.feed "b")).2.wordBeforeEscape =
        true := by
    cbv
  refine ⟨closes, ?_, (answers_behind_closed _ _ closes _).1⟩
  intro same
  rw [same] at remembers
  cases remembers

end JobShell.Lexer
