import JobShell.Proofs.Line.Joining

/-!
# How pipelines part a sequence

The pipelines of a sequence are its commands in their order, up to the first
command with nothing behind it.  A pipeline has a command in it, goes on over
pipes, and keeps the join in front of it.  In a compiled line a command is
marked as one that the shell runs itself exactly if it is a builtin that stands
alone in its pipeline, in the foreground.
-/

namespace JobShell

namespace Sequence

/-- The commands in front of the first one with nothing behind it, and this
one. -/
def reached (commands : List (Command × Join)) : List (Command × Join) :=
  commands.takeWhile (fun entry => entry.2 != .none) ++
    (commands.find? fun entry => entry.2 == .none).toList

section Reached

variable {command : Command} {join : Join}
  {commands rest : List (Command × Join)}

@[simp] theorem reached_nil : reached [] = [] := rfl

theorem reached_last :
    reached ((command, .none) :: rest) = [(command, .none)] := by
  simp [reached]

theorem reached_cons (more : join ≠ .none) :
    reached ((command, join) :: rest) = (command, join) :: reached rest := by
  simp [reached, more]

theorem reached_of_ended (ended : Ended commands) :
    reached commands = commands := by
  induction ended with
  | last command => exact reached_last
  | cons more _ induction => rw [reached_cons more, induction]

end Reached

/-- The pipelines part the commands, where `after` is the join in front of them.
Within a pipeline there are pipes.  It ends with a join that separates, which is
then in front of the next pipeline, or with the last command. -/
inductive Parts : (after : Join) → List (Command × Join) →
    List Pipeline → Prop where
  | nothing (after : Join) : Parts after [] []
  | pipeline {after next : Join} {front : List Command} {last : Command}
      {rest : List (Command × Join)} {pipelines : List Pipeline}
      (ends : next.Separates ∨ rest = []) (parts : Parts next rest pipelines) :
      Parts after (front.map (·, .pipe) ++ (last, next) :: rest)
        (⟨after, front ++ [last]⟩ :: pipelines)

/-- Whatever the joins are, the groups part what the group that was left open
holds and the commands behind it. -/
theorem parts_groups (current : Pipeline) (commands : List (Command × Join)) :
    Parts current.after (current.stages.map (·, .pipe) ++ reached commands)
      (groups current commands) := by
  induction commands generalizing current with
  | nil =>
      rw [reached_nil, List.append_nil, groups]
      rcases List.eq_nil_or_concat current.stages with empty |
        ⟨front, last, whole⟩
      · simpa [empty] using Parts.nothing current.after
      · -- the pipe behind the last command leads nowhere
        have cut : Parts current.after (front.map (·, .pipe) ++ [(last, .pipe)])
            [⟨current.after, front ++ [last]⟩] :=
          .pipeline (.inr rfl) (.nothing .pipe)
        rw [List.concat_eq_append] at whole
        have same : (⟨current.after, front ++ [last]⟩ : Pipeline) =
            current := by rw [← whole]
        rw [same] at cut
        simpa [whole] using cut
  | cons entry commands induction =>
      obtain ⟨command, join⟩ := entry
      have separated (next : Join) (separates : next.Separates) :
          Parts current.after
            (current.stages.map (·, .pipe) ++ (command, next) ::
              reached commands)
            (⟨current.after, current.stages ++ [command]⟩ ::
              groups { after := next, stages := [] } commands) :=
        .pipeline (.inl separates) (induction { after := next, stages := [] })
      cases join with
      | pipe =>
          have grown :=
            induction { current with stages := current.stages ++ [command] }
          rw [reached_cons (by simp)]
          simpa [groups] using grown
      | none =>
          rw [reached_last, groups]
          exact .pipeline (.inr rfl) (.nothing .none)
      | sequential =>
          rw [reached_cons (by simp)]
          exact separated .sequential trivial
      | andThen =>
          rw [reached_cons (by simp)]
          exact separated .andThen trivial
      | orElse =>
          rw [reached_cons (by simp)]
          exact separated .orElse trivial

theorem parts_pipelines (sequence : Sequence) :
    Parts .none (reached sequence.commands) sequence.pipelines :=
  parts_groups { after := .none, stages := [] } sequence.commands

namespace Parts

variable {after : Join} {commands : List (Command × Join)}
  {pipelines : List Pipeline}

theorem flatMap_stages (parts : Parts after commands pipelines) :
    pipelines.flatMap Pipeline.stages = commands.map Prod.fst := by
  induction parts with
  | nothing => rfl
  | pipeline _ _ induction => simp [induction, Function.comp_def]

theorem stages_pos (parts : Parts after commands pipelines) :
    ∀ pipeline ∈ pipelines, 0 < pipeline.stages.length := by
  induction parts with
  | nothing => simp
  | pipeline _ _ induction => simpa using induction

/-- Where a pipeline stands among the others, there are commands in front of its
own, and its join is the one behind the last of these. -/
theorem exists_members (parts : Parts after commands pipelines)
    {front back : List Pipeline} {pipeline : Pipeline}
    (split : pipelines = front ++ pipeline :: back) :
    ∃ before members behind, commands = before ++ members ++ behind ∧
      before.map Prod.fst = front.flatMap Pipeline.stages ∧
      members.map Prod.fst = pipeline.stages ∧
      (∀ entry ∈ members.dropLast, entry.2 = .pipe) ∧
      (∀ last ∈ members.getLast?, last.2.Separates ∨ behind = []) ∧
      pipeline.after = before.getLast?.elim after Prod.snd := by
  induction parts generalizing front with
  | nothing => simp at split
  | @pipeline after next stages last rest pipelines ends _ induction =>
      cases front with
      | nil =>
          obtain ⟨rfl, rfl⟩ := List.cons.inj split
          refine ⟨[], stages.map (·, .pipe) ++ [(last, next)], rest, ?_⟩
          simpa [Function.comp_def] using ends
      | cons first front =>
          obtain ⟨rfl, later⟩ := List.cons.inj split
          obtain ⟨before, members, behind, rfl, earlier, own, pipes,
            closing, join⟩ :=
            induction later
          refine ⟨stages.map (·, .pipe) ++ (last, next) :: before, members,
            behind, ?_, ?_, own, pipes, closing, ?_⟩
          · simp
          · simp [earlier, Function.comp_def]
          · have closed :
                (stages.map (·, Join.pipe) ++ (last, next) :: before).getLast? =
                some (before.getLast?.getD (last, next)) := by
              simp [List.getLast?_append, List.getLast?_cons]
            rw [join, closed]
            cases before.getLast? with
            | none => rfl
            | some entry => rfl

end Parts

/-- The pipelines of any sequence are its commands up to the first one with
nothing behind it, in their order.  None of them is empty, so each has a last
stage; the stages in front of that one are joined by pipes; and the join kept
with a pipeline is the one behind the command in front of it, where there is
one. -/
theorem pipelines_part_commands (sequence : Sequence) :
    sequence.pipelines.flatMap Pipeline.stages =
      (reached sequence.commands).map Prod.fst ∧
    (∀ pipeline ∈ sequence.pipelines, 0 < pipeline.stages.length) ∧
    ∀ front pipeline back, sequence.pipelines = front ++ pipeline :: back →
      ∃ before members behind,
        reached sequence.commands = before ++ members ++ behind ∧
        before.map Prod.fst = front.flatMap Pipeline.stages ∧
        members.map Prod.fst = pipeline.stages ∧
        (∀ entry ∈ members.dropLast, entry.2 = .pipe) ∧
        (∀ last ∈ members.getLast?, last.2.Separates ∨ behind = []) ∧
        pipeline.after = before.getLast?.elim .none Prod.snd := by
  have parts := parts_pipelines sequence
  refine ⟨parts.flatMap_stages, parts.stages_pos, ?_⟩
  intro front pipeline back split
  exact parts.exists_members split

/-- Three stages in two pipelines, with a command behind the end. -/
def cutShort : Sequence :=
  { commands :=
      [(⟨["ls"], [], false⟩, .pipe), (⟨["sort"], [], false⟩, .andThen),
        (⟨["cd"], [], true⟩, .none), (⟨["wc"], [], false⟩, .pipe)]
    background := false }

theorem pipelines_part_commands_cutShort :
    cutShort.pipelines =
        [⟨.none, [⟨["ls"], [], false⟩, ⟨["sort"], [], false⟩]⟩] ++
          ⟨.andThen, [⟨["cd"], [], true⟩]⟩ :: [] ∧
      ∃ before members behind,
        reached cutShort.commands = before ++ members ++ behind ∧
        before.map Prod.fst = [⟨["ls"], [], false⟩, ⟨["sort"], [], false⟩] ∧
        members.map Prod.fst = [⟨["cd"], [], true⟩] ∧
        Join.andThen = before.getLast?.elim .none Prod.snd := by
  have split : cutShort.pipelines =
      [⟨.none, [⟨["ls"], [], false⟩, ⟨["sort"], [], false⟩]⟩] ++
      ⟨.andThen, [⟨["cd"], [], true⟩]⟩ :: [] := rfl
  obtain ⟨before, members, behind, whole, earlier, own, _, _, join⟩ :=
    (pipelines_part_commands cutShort).2.2 _ _ _ split
  exact ⟨split, before, members, behind, whole, earlier, own, join⟩

/-- Each command of the pipeline is marked as one that the shell runs itself if
it is a builtin, alone in its pipeline, and in the foreground, and is not marked
otherwise. -/
def Marked (background : Bool) (pipeline : Pipeline) : Prop :=
  ∀ command ∈ pipeline.stages, command.builtin = true ↔
    background = false ∧ pipeline.stages = [command] ∧
    command.program ∈ builtinNames

/-- A last command joins commands that are not marked: its own mark says whether
it is alone. -/
theorem marked_concat {background mark : Bool} {current : Pipeline}
    {command : Command}
    (unmarked : ∀ stage ∈ current.stages, stage.builtin = false)
    (given : mark =
      (!background && current.stages.isEmpty && isBuiltin command.program)) :
    Marked background
      { current with
        stages := current.stages ++ [{ command with builtin := mark }] } := by
  intro stage member
  rcases List.mem_append.mp member with earlier | last
  · have company : current.stages ++ [{ command with builtin := mark }] ≠
      [stage] := by
      intro alone
      have nobody : current.stages = [] := by
        simpa using congrArg List.length alone
      simp [nobody] at earlier
    simp [unmarked stage earlier, company]
  · have program : ({ command with builtin := mark } : Command).program =
      command.program := rfl
    rw [List.mem_singleton.mp last, program, ← isBuiltin_iff]
    simp [given, and_assoc]

/-- The mark of a command depends on the pipes around it, and these on the
pipeline that it is in: one that has been begun goes on behind a pipe. -/
theorem marked_groups {background : Bool} {commands : List (Command × Join)}
    (ended : Ended commands) (current : Pipeline)
    (unmarked : ∀ stage ∈ current.stages, stage.builtin = false) :
    ∀ pipeline ∈ groups current (markBuiltins background
      (!current.stages.isEmpty) commands),
      Marked background pipeline := by
  induction ended generalizing current with
  | last command =>
      have single : (Join.none == .pipe) = false := rfl
      intro pipeline member
      rw [List.mem_singleton.mp member]
      exact marked_concat unmarked (by simp [single])
  | @cons command join rest more _ induction =>
      have separated {next : Join} (single : (next == .pipe) = false) :
          ∀ pipeline ∈ { current with
            stages := current.stages ++ [{ command with
              builtin :=
                !background && !(!current.stages.isEmpty || next == .pipe) &&
                isBuiltin command.program }] } ::
              groups { after := next, stages := [] }
                (markBuiltins background (next == .pipe) rest),
            Marked background pipeline := by
        intro pipeline member
        rcases List.mem_cons.mp member with same | later
        · rw [same]
          exact marked_concat unmarked (by simp [single])
        · rw [single] at later
          exact induction { after := next,
                            stages := [] } (by simp) pipeline later
      cases join with
      | pipe =>
          have piped : (Join.pipe == .pipe) = true := rfl
          have grown :=
            induction { current with stages := current.stages ++ [{ command with
              builtin :=
                !background &&
                  !(!current.stages.isEmpty || Join.pipe == .pipe) &&
                isBuiltin command.program }] } (by
                  simpa [piped, or_imp, forall_and] using unmarked)
          have begun (stages : List Command) (stage : Command) :
              (!(stages ++ [stage]).isEmpty) = (Join.pipe == .pipe) := by
            simp
          rw [begun] at grown
          exact grown
      | none => exact absurd rfl more
      | sequential => exact separated rfl
      | andThen => exact separated rfl
      | orElse => exact separated rfl

/-- In a compiled line, where every command is a stage of a pipeline, exactly
the builtins that stand alone in their pipelines are marked as run by the shell
itself, and none of them is in a background line. -/
theorem builtin_iff_alone {tokens : List Token} {sequence : Sequence}
    (compiled : compile tokens = .ok sequence) :
    sequence.pipelines.flatMap Pipeline.stages =
      sequence.commands.map Prod.fst ∧
    ∀ pipeline ∈ sequence.pipelines,
      (∀ command ∈ pipeline.stages, command.builtin = true ↔
        sequence.background = false ∧ pipeline.stages = [command] ∧
          command.program ∈ builtinNames) ∧
      (1 < pipeline.stages.length →
        ∀ command ∈ pipeline.stages, command.builtin = false) := by
  have marked : reached sequence.commands = sequence.commands ∧
      ∀ pipeline ∈ sequence.pipelines, Marked sequence.background pipeline := by
    rcases exists_line_of_compile compiled with rfl | ⟨line, rfl⟩
    · cases compiled
      exact ⟨rfl, List.forall_mem_nil _⟩
    · rw [compile_tokens] at compiled
      cases compiled
      have ended := ended_lineCommands line
      exact ⟨reached_of_ended (ended.markBuiltins _ _),
        marked_groups ended { after := .none,
                              stages := [] } (List.forall_mem_nil _)⟩
  have whole := (parts_pipelines sequence).flatMap_stages
  rw [marked.1] at whole
  refine ⟨whole, fun pipeline member => ⟨marked.2 pipeline member, ?_⟩⟩
  intro several command stage
  apply Bool.eq_false_iff.mpr
  intro mark
  have alone := ((marked.2 pipeline member command stage).mp mark).2.1
  simp [alone] at several

/-- The tokens of `cd / && jobs | cat ; pwd ;`. -/
def changeListShow : List Token :=
  [.word "cd", .word "/", .relation .and, .word "jobs", .relation .pipe,
    .word "cat", .relation .semi, .word "pwd", .relation .semi]

theorem builtin_iff_alone_changeListShow :
    ∃ sequence, compile changeListShow = .ok sequence ∧
      (sequence.commands.map fun entry => entry.1.builtin) =
        [true, false, false, true] ∧
      sequence.pipelines.flatMap Pipeline.stages =
        sequence.commands.map Prod.fst ∧
      ∀ pipeline ∈ sequence.pipelines,
        1 < pipeline.stages.length →
        ∀ command ∈ pipeline.stages, command.builtin = false := by
  have compiled : compile changeListShow = .ok _ := rfl
  obtain ⟨whole, marks⟩ := builtin_iff_alone compiled
  exact ⟨_, compiled, by decide, whole,
    fun pipeline member => (marks pipeline member).2⟩

end Sequence

end JobShell
