import JobShell.Proofs.Line.Compiling

/-!
# Pipelines and their joins

Grouping the commands of a line into pipelines loses nothing: the join in front
of a pipeline is the one that the command before it is written with.
-/

namespace JobShell

/-- A join between two pipelines, not one within a pipeline and not the end. -/
def Join.Separates : Join → Prop
  | .sequential | .andThen | .orElse => True
  | .pipe | .none => False

namespace Sequence

open Grammar

/-- The commands of a pipeline as a line has them, given the join behind the
last. -/
def piped (next : Join) : List Command → List (Command × Join)
  | [] => []
  | [last] => [(last, next)]
  | command :: rest => (command, .pipe) :: piped next rest

def joined : List Pipeline → List (Command × Join)
  | [] => []
  | pipeline :: rest =>
    piped (rest.head?.elim .none Pipeline.after) pipeline.stages ++ joined rest

/-- Only the last command has nothing behind it. -/
inductive Ended : List (Command × Join) → Prop where
  | last (command : Command) : Ended [(command, .none)]
  | cons {command : Command} {join : Join} {rest : List (Command × Join)}
      (more : join ≠ .none) (ended : Ended rest) :
        Ended ((command, join) :: rest)

theorem piped_concat (next : Join) (front : List Command) (last : Command) :
    piped next (front ++ [last]) = front.map (·, .pipe) ++ [(last, next)] := by
  induction front with
  | nil => rfl
  | cons command front induction =>
      rw [List.map_cons, List.cons_append, List.cons_append, ← induction]
      cases front with
      | nil => rfl
      | cons second front => rfl

theorem exists_groups {commands : List (Command × Join)}
    (ended : Ended commands) (current : Pipeline) :
    ∃ stages rest,
      groups current commands = ⟨current.after, stages⟩ :: rest := by
  induction ended generalizing current with
  | last command => exact ⟨_, _, rfl⟩
  | @cons command join rest more ended induction =>
      cases join with
      | pipe => exact induction _
      | none => exact absurd rfl more
      | sequential => exact ⟨_, _, rfl⟩
      | andThen => exact ⟨_, _, rfl⟩
      | orElse => exact ⟨_, _, rfl⟩

theorem joined_groups {commands : List (Command × Join)}
    (ended : Ended commands) (current : Pipeline) :
    joined (groups current commands) =
      current.stages.map (·, .pipe) ++ commands := by
  induction ended generalizing current with
  | last command =>
      have grown := piped_concat .none current.stages command
      simpa [groups, joined] using grown
  | @cons command join rest more ended induction =>
      have separated : ∀ other : Join,
          joined ({ current with stages := current.stages ++ [command] } ::
              groups { after := other, stages := [] } rest) =
            current.stages.map (·, .pipe) ++ (command, other) :: rest := by
        intro other
        obtain ⟨stages, others, next⟩ := exists_groups ended { after := other,
                                                               stages := [] }
        have behind := induction { after := other, stages := [] }
        rw [next] at behind ⊢
        rw [joined, behind]
        simp [piped_concat]
      cases join with
      | pipe =>
          have grown :=
            induction { current with stages := current.stages ++ [command] }
          simpa [groups] using grown
      | none => exact absurd rfl more
      | sequential => exact separated .sequential
      | andThen => exact separated .andThen
      | orElse => exact separated .orElse

/-- Only the first group keeps the join that the grouping began with. -/
theorem separates_of_groups {commands : List (Command × Join)}
    {current first : Pipeline} {rest : List Pipeline}
    (grouped : groups current commands = first :: rest) :
    first.after = current.after ∧
    ∀ pipeline ∈ rest, pipeline.after.Separates := by
  induction commands generalizing current first rest with
  | nil =>
      unfold groups at grouped
      split at grouped
      · cases grouped
      · cases grouped
        exact ⟨rfl, nofun⟩
  | cons entry commands induction =>
      obtain ⟨command, join⟩ := entry
      have separated : ∀ other : Join, other.Separates →
          ({ current with stages := current.stages ++ [command] } : Pipeline) ::
            groups { after := other, stages := [] } commands = first :: rest →
          first.after = current.after ∧
          ∀ pipeline ∈ rest, pipeline.after.Separates := by
        intro other separates grouped
        cases grouped
        refine ⟨rfl, fun pipeline member => ?_⟩
        cases later : groups { after := other, stages := [] } commands with
        | nil =>
            rw [later] at member
            cases member
        | cons next others =>
            obtain ⟨same, joins⟩ := induction later
            rw [later] at member
            rcases List.mem_cons.mp member with rfl | behind
            · rw [same]
              exact separates
            · exact joins pipeline behind
      cases join with
      | pipe =>
          have grown :
              groups { current with
                stages := current.stages ++ [command] } commands =
              first :: rest := grouped
          have behind := induction grown
          exact behind
      | none =>
          cases grouped
          exact ⟨rfl, nofun⟩
      | sequential => exact separated .sequential trivial grouped
      | andThen => exact separated .andThen trivial grouped
      | orElse => exact separated .orElse trivial grouped

theorem Ended.markBuiltins {commands : List (Command × Join)}
    (ended : Ended commands) (background afterPipe : Bool) :
    Ended (markBuiltins background afterPipe commands) := by
  induction ended generalizing afterPipe with
  | last command => exact .last _
  | cons more _ induction => exact .cons more (induction _)

theorem ended_lineCommands (line : Line) : Ended (lineCommands line) := by
  obtain ⟨signed, last, ending⟩ := line
  induction signed with
  | nil => exact .last _
  | cons entry signed induction =>
      obtain ⟨clause, sign⟩ := entry
      refine .cons ?_ induction
      cases sign <;> nofun

theorem joined_pipelines {tokens : List Token} {sequence : Sequence}
    (compiled : compile tokens = .ok sequence) :
    joined sequence.pipelines = sequence.commands := by
  rcases exists_line_of_compile compiled with rfl | ⟨line, rfl⟩
  · cases compiled
    rfl
  · rw [compile_tokens] at compiled
    cases compiled
    have ended :=
      (ended_lineCommands line).markBuiltins (line.ending == .background) false
    exact joined_groups ended { after := .none, stages := [] }

end Sequence

end JobShell
