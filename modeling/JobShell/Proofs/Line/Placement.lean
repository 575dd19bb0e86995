import JobShell.Line.Lexer
import JobShell.Proofs.Line.Grammar

/-!
# Placement in a line

The relations of a line of the grammar are where the lexer lets them stand, and
such a line does not ask for another one.
-/

namespace JobShell

open Grammar

namespace Token

variable (rest : List Token)

theorem lastRelation_item (item : Item) :
    lastRelation none false (item.tokens ++ rest) =
      lastRelation none false rest := by
  cases item with
  | argument word => rfl
  | redirection redirection =>
      obtain ⟨operator, file⟩ := redirection
      cases operator <;> rfl

theorem lastRelation_items (items : List Item) :
    lastRelation none false (items.flatMap Item.tokens ++ rest) =
      lastRelation none false rest := by
  induction items with
  | nil => rfl
  | cons item items induction =>
      rw [List.flatMap_cons, List.append_assoc, lastRelation_item, induction]

/-- Behind a command it makes no difference what stood in front of it. -/
theorem lastRelation_clause (previous : Option Relation) (first : Bool)
    (clause : Clause) :
    lastRelation previous first (clause.tokens ++ rest) =
      lastRelation none false rest :=
  lastRelation_items rest clause.items

theorem lastRelation_sign (sign : Sign) :
    lastRelation none false (.relation sign.relation :: rest) =
      lastRelation (some sign.relation) false rest := by
  cases sign <;> rfl

theorem lastRelation_joined (previous : Option Relation) (first : Bool)
    (joined : List (Clause × Sign)) (last : Clause) :
    lastRelation previous first (joinedTokens joined ++ last.tokens ++ rest) =
      lastRelation none false rest := by
  induction joined generalizing previous first with
  | nil => exact lastRelation_clause rest previous first last
  | cons entry joined induction =>
      rw [joinedTokens_cons, List.append_assoc, List.append_assoc,
        lastRelation_clause, List.cons_append,
        lastRelation_sign, ← List.append_assoc, induction]

theorem checkPlacement_line (line : Line) (complete : Bool) :
    checkPlacement line.tokens complete = .ok () := by
  unfold checkPlacement
  rw [Line.tokens, lastRelation_joined]
  cases line.ending <;> cases complete <;> rfl

end Token

theorem Lexer.awaitsCommand_line
    (line : Line) : awaitsCommand line.tokens = false := by
  unfold awaitsCommand
  rcases line.last_cases with ⟨_, word, last⟩ | ⟨_, last⟩ | ⟨_, last⟩
  · rw [last]
  · rw [last]
    rfl
  · rw [last]
    rfl

end JobShell
