import JobShell.Machine.Children
import JobShell.Proofs.Line.Joining

/-!
# Background sequences

A line of several pipelines with `&` at its end runs in a child, which executes
it in its own foreground.  The marks of its commands are still those of a
background line: a builtin that would run in the shell itself runs in a child of
that child.
-/

namespace JobShell

/-- The command as one that runs in a child. -/
def Command.forked (command : Command) : Command :=
  { command with builtin := false }

theorem Command.forked_eq_self_iff (command : Command) :
    command.forked = command ↔ command.builtin = false := by
  obtain ⟨arguments, redirections, builtin⟩ := command
  cases builtin <;> simp [Command.forked]

def Pipeline.forked (pipeline : Pipeline) : Pipeline :=
  { pipeline with stages := pipeline.stages.map Command.forked }

namespace Sequence

def forkedCommands (commands : List (Command × Join)) : List (Command × Join) :=
  commands.map fun entry => (entry.1.forked, entry.2)

/-- The sequence with each of its commands in a child. -/
def forked (sequence : Sequence) : Sequence :=
  { sequence with commands := forkedCommands sequence.commands }

theorem forkedCommands_markBuiltins (background afterPipe : Bool)
    (commands : List (Command × Join)) :
    forkedCommands (markBuiltins background afterPipe commands) =
      forkedCommands commands := by
  induction commands generalizing afterPipe with
  | nil => rfl
  | cons entry commands induction =>
      have rest := induction (entry.2 == .pipe)
      exact congrArg ((entry.1.forked, entry.2) :: ·) rest

/-- In a background line no command is marked. -/
theorem markBuiltins_background (afterPipe : Bool)
    (commands : List (Command × Join)) :
    markBuiltins true afterPipe commands = forkedCommands commands := by
  induction commands generalizing afterPipe with
  | nil => rfl
  | cons entry commands induction =>
      have rest := induction (entry.2 == .pipe)
      exact congrArg ((entry.1.forked, entry.2) :: ·) rest

theorem forkedCommands_eq_self_iff (commands : List (Command × Join)) :
    forkedCommands commands = commands ↔
      ∀ entry ∈ commands, entry.1.builtin = false := by
  induction commands with
  | nil => simp [forkedCommands]
  | cons entry commands induction =>
      rw [List.forall_mem_cons, ← induction, ← Command.forked_eq_self_iff]
      simp [forkedCommands, Prod.ext_iff]

theorem forked_eq_self_iff (sequence : Sequence) :
    sequence.forked = sequence ↔
      ∀ entry ∈ sequence.commands, entry.1.builtin = false := by
  rw [← forkedCommands_eq_self_iff]
  obtain ⟨commands, background⟩ := sequence
  simp [forked]

theorem groups_forked (current : Pipeline) (commands : List (Command × Join)) :
    groups current.forked (forkedCommands commands) =
      (groups current commands).map Pipeline.forked := by
  induction commands generalizing current with
  | nil =>
      obtain ⟨after, stages⟩ := current
      cases stages <;> rfl
  | cons entry commands induction =>
      obtain ⟨command, join⟩ := entry
      have grown :
          { current.forked with
            stages := current.forked.stages ++ [command.forked] } =
          Pipeline.forked { current with
            stages := current.stages ++ [command] } := by
        simp [Pipeline.forked]
      have behind (other : Join) := induction { after := other, stages := [] }
      cases join with
      | pipe =>
          have whole :=
            induction { current with stages := current.stages ++ [command] }
          rw [← grown] at whole
          exact whole
      | none => exact congrArg (fun group => [group]) grown
      | sequential => exact congrArg₂ List.cons grown (behind .sequential)
      | andThen => exact congrArg₂ List.cons grown (behind .andThen)
      | orElse => exact congrArg₂ List.cons grown (behind .orElse)

theorem pipelines_forked (sequence : Sequence) :
    sequence.forked.pipelines = sequence.pipelines.map Pipeline.forked :=
  groups_forked { after := .none, stages := [] } sequence.commands

theorem exists_compile_of_background {tokens : List Token} {sequence : Sequence}
    (compiled : compile (tokens ++ [.relation .background]) = .ok sequence) :
    ∃ foreground, compile tokens = .ok foreground ∧ sequence.background = true ∧
      { sequence with background := false } = foreground.forked := by
  rcases exists_line_of_compile compiled with impossible | ⟨line, written⟩
  · simp at impossible
  · have last : line.tokens.getLast? = some (.relation .background) := by
      rw [written, List.getLast?_concat]
    have ended : line.ending = .background := by
      simpa using (background_iff line).mpr last
    have front : Grammar.Line.tokens { line with ending := .none } =
      tokens := by
      rw [Grammar.Line.tokens, ended] at written
      have same := List.append_inj_left' written rfl
      simpa [Grammar.Line.tokens, Grammar.Ending.tokens] using same
    have alone := compile_tokens { line with ending := .none }
    rw [front] at alone
    rw [← written, compile_tokens] at compiled
    cases compiled
    refine ⟨_, alone, by simp [ended], ?_⟩
    have marked := markBuiltins_background false (lineCommands line)
    have unmarked := forkedCommands_markBuiltins false false (lineCommands line)
    simp only [ended, beq_self_eq_true, marked, forked]
    exact congrArg (Sequence.mk · false) unmarked.symm

end Sequence

namespace Shell

theorem runPipeline_forked (background : Bool) (pipeline : Pipeline) :
    runPipeline background pipeline.forked =
      runJob pipeline.forked background := by
  obtain ⟨after, stages⟩ := pipeline
  match stages with
  | [] => rfl
  | [command] => rfl
  | command :: second :: rest => rfl

theorem execute_of_background {sequence : Sequence}
    (background : sequence.background = true)
    (several : 1 < sequence.pipelines.length) :
    execute sequence = (do
      let status ← reported (runSubshell sequence)
      modify fun session => { session with lastStatus := status }
      pure status) := by
  have given : sequence.isEmpty = false := by
    rw [Bool.eq_false_iff]
    intro empty
    have nothing : sequence.commands = [] := List.isEmpty_iff.mp empty
    rw [Sequence.pipelines, nothing] at several
    exact absurd several (by decide)
  unfold execute
  rw [given, background]
  simp [several]

/-- The child for a line of several pipelines executes the line without its `&`,
but with each command in a child of its own.  This is the same sequence just
where no command would have run in the shell itself. -/
theorem subshell_executes_forked {tokens : List Token} {sequence : Sequence}
    (compiled : Sequence.compile (tokens ++ [.relation .background]) =
      .ok sequence)
    (several : 1 < sequence.pipelines.length) :
    (execute sequence = (do
      let status ← reported (runSubshell sequence)
      modify fun session => { session with lastStatus := status }
      pure status)) ∧
    (∀ session, Task.body (.subshell session sequence) =
      Task.subshellBody session { sequence with background := false }) ∧
    ∃ foreground, Sequence.compile tokens = .ok foreground ∧
      { sequence with background := false } = foreground.forked ∧
      (∀ pipeline ∈ foreground.pipelines,
        pipeline.forked ∈ foreground.forked.pipelines ∧
        runPipeline false pipeline.forked = runJob pipeline.forked false) ∧
      foreground.forked.pipelines = foreground.pipelines.map Pipeline.forked ∧
      ({ sequence with background := false } = foreground ↔
        ∀ entry ∈ foreground.commands, entry.1.builtin = false) := by
  obtain ⟨foreground, alone, background, forked⟩ :=
    Sequence.exists_compile_of_background compiled
  refine ⟨execute_of_background background several,
    fun _ => rfl, foreground, alone, forked, ?_, ?_, ?_⟩
  · intro pipeline member
    rw [Sequence.pipelines_forked]
    exact ⟨List.mem_map_of_mem member, runPipeline_forked false pipeline⟩
  · exact Sequence.pipelines_forked foreground
  · rw [forked]
    exact Sequence.forked_eq_self_iff foreground

/-- The tokens of `cd / ; pwd`. -/
def changeThenShow : List Token :=
  [.word "cd", .word "/", .relation .semi, .word "pwd"]

theorem subshell_executes_forked_changeThenShow :
    ∃ sequence foreground,
      Sequence.compile (changeThenShow ++ [.relation .background]) =
        .ok sequence ∧
      1 < sequence.pipelines.length ∧
      Sequence.compile changeThenShow = .ok foreground ∧
      (∀ session, Task.body (.subshell session sequence) =
        Task.subshellBody session { sequence with background := false }) ∧
      { sequence with background := false } = foreground.forked ∧
      foreground.forked ≠ foreground := by
  have compiled : Sequence.compile (changeThenShow ++ [.relation .background]) =
      .ok _ := rfl
  obtain ⟨_, body, foreground, alone, forked, _, _, same⟩ :=
    subshell_executes_forked compiled (by decide)
  refine ⟨_, foreground, compiled, by decide, alone, body, forked, ?_⟩
  rw [← forked]
  intro whole
  have unmarked := same.mp whole
  cases alone
  exact absurd (unmarked _ List.mem_cons_self) (by decide)

/-- In the background `cd` does not change the directory of what stands behind
it. -/
theorem not_subshell_executes_foreground :
    ¬∀ (tokens : List Token) (sequence foreground : Sequence),
      Sequence.compile (tokens ++ [.relation .background]) = .ok sequence →
      1 < sequence.pipelines.length → Sequence.compile tokens = .ok foreground →
        { sequence with background := false } = foreground := by
  intro same
  have equal := same changeThenShow _ _ rfl (by decide) rfl
  exact absurd equal (by decide)

end Shell

end JobShell
