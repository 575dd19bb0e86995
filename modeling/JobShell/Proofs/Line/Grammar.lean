import Mathlib.Data.List.Induction
import JobShell.Line.Sequence

/-!
# The grammar of a line

What a line is, apart from how it is read: commands with a sign between each two
of them, and possibly a final `;` or `&`.  Of the redirections of a command only
the last one of each descriptor counts.
-/

namespace JobShell

def RedirectOp.relation : RedirectOp → Relation
  | input => .redirectIn
  | output => .redirectOut
  | append => .redirectAppend

namespace Grammar

/-- What can follow the program of a command. -/
inductive Item where
  | argument (word : String)
  | redirection (redirection : Redirection)
  deriving DecidableEq, Repr

namespace Item

def tokens : Item → List Token
  | argument word => [.word word]
  | redirection given => [.relation given.operator.relation, .word given.file]

def argument? : Item → Option String
  | argument word => some word
  | redirection _ => none

def redirection? : Item → Option Redirection
  | argument _ => none
  | redirection given => some given

end Item

/-- A command as it is written. -/
structure Clause where
  program : String
  items : List Item
  deriving DecidableEq, Repr

/-- The redirections that no later one with the same target overrides. -/
def lastPerTarget : List Redirection → List Redirection
  | [] => []
  | first :: rest =>
    if ∃ later ∈ rest, later.target = first.target then lastPerTarget rest
    else first :: lastPerTarget rest

namespace Clause

def tokens (clause : Clause) : List Token :=
  .word clause.program :: clause.items.flatMap Item.tokens

def arguments (clause : Clause) : List String :=
  clause.program :: clause.items.filterMap Item.argument?

/-- All redirections of a command, also the overridden ones. -/
def written (clause : Clause) : List Redirection :=
  clause.items.filterMap Item.redirection?

end Clause

/-- What stands between two commands. -/
inductive Sign where
  | pipe
  | semi
  | and
  | or
  deriving DecidableEq, Repr

namespace Sign

def relation : Sign → Relation
  | pipe => .pipe
  | semi => .semi
  | and => .and
  | or => .or

def join : Sign → Join
  | pipe => .pipe
  | semi => .sequential
  | and => .andThen
  | or => .orElse

end Sign

inductive Ending where
  | none
  | semi
  | background
  deriving DecidableEq, Repr

def Ending.tokens : Ending → List Token
  | none => []
  | semi => [.relation .semi]
  | background => [.relation .background]

def joinedTokens (joined : List (Clause × Sign)) : List Token :=
  joined.flatMap fun entry => entry.1.tokens ++ [.relation entry.2.relation]

theorem joinedTokens_cons (entry : Clause × Sign)
    (joined : List (Clause × Sign)) :
    joinedTokens (entry :: joined) =
      entry.1.tokens ++
        (.relation entry.2.relation :: joinedTokens joined) := by
  simp [joinedTokens]

structure Line where
  joined : List (Clause × Sign)
  last : Clause
  ending : Ending
  deriving DecidableEq, Repr

namespace Line

def tokens (line : Line) : List Token :=
  joinedTokens line.joined ++ line.last.tokens ++ line.ending.tokens

theorem tokens_cons (entry : Clause × Sign) (joined : List (Clause × Sign))
    (last : Clause) (ending : Ending) :
    tokens ⟨entry :: joined, last, ending⟩ =
      entry.1.tokens ++
        (.relation entry.2.relation :: tokens ⟨joined, last, ending⟩) := by
  simp [tokens, joinedTokens_cons]

/-- The commands with the join that follows each of them. -/
def clauses (line : Line) : List (Clause × Join) :=
  (line.joined.map fun entry => (entry.1, entry.2.join)) ++ [(line.last, .none)]

end Line

theorem lastPerTarget_concat (written : List Redirection)
    (redirection : Redirection) :
    lastPerTarget (written ++ [redirection]) =
      ((lastPerTarget written).filter
        fun other => other.target != redirection.target) ++
        [redirection] := by
  induction written with
  | nil => simp [lastPerTarget]
  | cons first rest induction =>
      rw [List.cons_append, lastPerTarget, lastPerTarget, induction]
      by_cases later : ∃ later ∈ rest, later.target = first.target
      · have laterToo : ∃ later ∈ rest ++ [redirection],
            later.target = first.target := by
          obtain ⟨entry, member, same⟩ := later
          exact ⟨entry, List.mem_append_left _ member, same⟩
        rw [if_pos later, if_pos laterToo]
      · by_cases same : redirection.target = first.target
        · have laterToo : ∃ later ∈ rest ++ [redirection],
              later.target = first.target :=
            ⟨redirection, by simp, same⟩
          rw [if_neg later, if_pos laterToo,
            List.filter_cons_of_neg (by simp [same])]
        · have laterToo : ¬∃ later ∈ rest ++ [redirection],
              later.target = first.target := by
            rintro ⟨entry, member, sameTarget⟩
            rcases List.mem_append.1 member with member | member
            · exact later ⟨entry, member, sameTarget⟩
            · rw [List.mem_singleton.1 member] at sameTarget
              exact same sameTarget
          rw [if_neg later, if_neg laterToo,
            List.filter_cons_of_pos (by simp [Ne.symm same]), List.cons_append]

/-- At most one redirection of each descriptor is kept: the last one. -/
theorem filter_lastPerTarget (written : List Redirection) (target : Nat) :
    (lastPerTarget written).filter (fun entry => entry.target == target) =
      (written.filter fun entry => entry.target == target).getLast?.toList := by
  induction written using List.reverseRecOn with
  | nil => rfl
  | append_singleton written redirection induction =>
      rw [lastPerTarget_concat, List.filter_append, List.filter_append,
        List.filter_filter]
      by_cases same : redirection.target = target
      · subst same
        have none_ : (lastPerTarget written).filter (fun entry =>
            entry.target == redirection.target && entry.target !=
              redirection.target) = [] := by
          simp
        rw [none_]
        simp
      · have others : (fun entry : Redirection =>
            entry.target == target && entry.target != redirection.target) =
              fun entry => entry.target == target := by
          funext entry
          by_cases here : entry.target = target <;> simp [here, Ne.symm same]
        rw [others, induction]
        simp [same]

namespace Clause

def command (clause : Clause) : Command :=
  { arguments := clause.arguments, redirections := lastPerTarget clause.written,
    builtin := false }

def addItem (clause : Clause) (item : Item) : Clause :=
  { clause with items := clause.items ++ [item] }

variable (clause : Clause)

theorem tokens_addItem (item : Item) :
    (clause.addItem item).tokens = clause.tokens ++ item.tokens := by
  simp [addItem, tokens]

/-- The last token of a command is a word. -/
theorem exists_tokens_concat :
    ∃ front word, clause.tokens = front ++ [.word word] := by
  obtain ⟨program, items⟩ := clause
  rcases List.eq_nil_or_concat items with rfl | ⟨front, item, rfl⟩
  · exact ⟨[], program, rfl⟩
  · rw [List.concat_eq_append]
    have shape := tokens_addItem ⟨program, front⟩ item
    cases item with
    | argument word => exact ⟨_, word, shape⟩
    | redirection given =>
        refine ⟨tokens ⟨program, front⟩ ++ [.relation given.operator.relation],
          given.file, ?_⟩
        rw [List.append_assoc]
        exact shape

theorem command_addItem_argument (word : String) :
    (clause.addItem (.argument word)).command =
      { clause.command with
        arguments := clause.command.arguments ++ [word] } := by
  simp [addItem, command, arguments, written, Item.argument?, Item.redirection?,
    List.filterMap_cons]

theorem command_addItem_redirection (redirection : Redirection) :
    (clause.addItem (.redirection redirection)).command =
      clause.command.redirect redirection := by
  simp [addItem, command, arguments, written, Item.argument?, Item.redirection?,
    Command.redirect, lastPerTarget_concat]

end Clause

/-- A line ends in a word, unless it ends in a mark. -/
theorem Line.last_cases (line : Line) :
    (line.ending = .none ∧ ∃ word, line.tokens.getLast? = some (.word word)) ∨
      (line.ending = .semi ∧ line.tokens.getLast? = some (.relation .semi)) ∨
      (line.ending = .background ∧
        line.tokens.getLast? = some (.relation .background)) := by
  obtain ⟨joined, last, ending⟩ := line
  cases ending with
  | none =>
      obtain ⟨front, word, shape⟩ := last.exists_tokens_concat
      refine .inl ⟨rfl, word, ?_⟩
      simp [tokens, Ending.tokens, shape]
  | semi => exact .inr (.inl ⟨rfl, by simp [tokens, Ending.tokens]⟩)
  | background => exact .inr (.inr ⟨rfl, by simp [tokens, Ending.tokens]⟩)

end Grammar

end JobShell
