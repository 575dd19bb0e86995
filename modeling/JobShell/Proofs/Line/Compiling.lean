import JobShell.Proofs.Line.Grammar

/-!
# Compiling lines

The compiler accepts the tokens of lines, and of nothing else but the empty
line, and its commands say what the line says.  In one direction the tokens of a
line are read part by part; in the other direction what has been read is always
the beginning of a line.
-/

namespace JobShell

namespace Sequence

open Grammar

variable (closed : List (Command × Join)) (rest : List Token)

theorem readTokens_item (clause : Clause) (item : Item) :
    readTokens closed clause.command (item.tokens ++ rest) =
      readTokens closed (clause.addItem item).command rest := by
  cases item with
  | argument word =>
      rw [Clause.command_addItem_argument]
      rfl
  | redirection redirection =>
      rw [Clause.command_addItem_redirection]
      obtain ⟨operator, file⟩ := redirection
      cases operator <;> rfl

theorem readTokens_items (clause : Clause) (items : List Item) :
    readTokens closed clause.command (items.flatMap Item.tokens ++ rest) =
      readTokens closed { clause with
        items := clause.items ++ items }.command rest := by
  induction items generalizing clause with
  | nil => simp
  | cons item items induction =>
      rw [List.flatMap_cons, List.append_assoc, readTokens_item, induction]
      simp [Clause.addItem]

theorem readTokens_clause (clause : Clause) :
    readTokens closed Command.empty (clause.tokens ++ rest) =
      readTokens closed clause.command rest :=
  readTokens_items closed rest ⟨clause.program, []⟩ clause.items

theorem readTokens_sign (clause : Clause) (sign : Sign) :
    readTokens closed clause.command (.relation sign.relation :: rest) =
      readTokens (closed ++ [(clause.command, sign.join)])
        Command.empty rest := by
  cases sign <;> rfl

theorem readTokens_joined (joined : List (Clause × Sign)) :
    readTokens closed Command.empty (joinedTokens joined ++ rest) =
      readTokens (closed ++ joined.map fun entry =>
        (entry.1.command, entry.2.join))
        Command.empty rest := by
  induction joined generalizing closed with
  | nil => simp [joinedTokens]
  | cons entry joined induction =>
      rw [joinedTokens_cons, List.append_assoc, readTokens_clause,
        List.cons_append, readTokens_sign, induction]
      simp

variable {closed rest}

/-- The tokens of a command of which nothing may have been read yet. -/
def pendingTokens : Option Clause → List Token
  | none => []
  | some clause => clause.tokens

def pendingCommand : Option Clause → Command
  | none => Command.empty
  | some clause => clause.command

theorem exists_of_isEmpty_pendingCommand {pending : Option Clause}
    (given : ¬(pendingCommand pending).isEmpty = true) :
    ∃ clause, pending = some clause := by
  cases pending with
  | none => exact absurd rfl given
  | some clause => exact ⟨clause, rfl⟩

theorem exists_pending_word (pending : Option Clause) (text : String) :
    ∃ clause,
      pendingTokens (some clause) = pendingTokens pending ++ [.word text] ∧
      pendingCommand (some clause) =
        { pendingCommand pending with
          arguments := (pendingCommand pending).arguments ++ [text] } := by
  cases pending with
  | none => exact ⟨⟨text, []⟩, rfl, rfl⟩
  | some clause =>
      exact ⟨clause.addItem (.argument text), clause.tokens_addItem _,
        clause.command_addItem_argument text⟩

/-- What it takes to read `tokens` behind `closed`: they are commands with a
sign behind each of them, and behind these the command that is being read. -/
inductive Reading (closed : List (Command × Join)) (tokens : List Token) :
    List (Command × Join) × Command × Bool → Prop where
  | intro (joined : List (Clause × Sign)) (pending : Option Clause)
      (background : Bool)
      (shape : tokens = joinedTokens joined ++ pendingTokens pending ++
        (if background then Ending.background.tokens else []))
      (ready : background = true → pending.isSome = true) :
      Reading closed tokens
        (closed ++ (joined.map fun entry => (entry.1.command, entry.2.join)),
          pendingCommand pending, background)

theorem Reading.cons {tokens : List Token}
    {result : List (Command × Join) × Command × Bool} (clause : Clause)
    (sign : Sign)
    (reading : Reading (closed ++ [(clause.command, sign.join)])
      tokens result) :
    Reading closed (clause.tokens ++ .relation sign.relation :: tokens)
      result := by
  cases reading with
  | intro joined pending background shape ready =>
      have whole : clause.tokens ++ .relation sign.relation :: tokens =
          joinedTokens ((clause, sign) :: joined) ++ pendingTokens pending ++
            (if background then Ending.background.tokens else []) := by
        rw [shape, joinedTokens_cons]
        simp
      have commands : closed ++ [(clause.command, sign.join)] ++
          (joined.map fun entry => (entry.1.command, entry.2.join)) =
            closed ++ (((clause, sign) :: joined).map fun entry =>
              (entry.1.command, entry.2.join)) := by
        simp
      rw [commands]
      exact .intro _ pending background whole ready

theorem Reading.single (closed : List (Command × Join))
    (pending : Option Clause) (background : Bool)
    (ready : background = true → pending.isSome = true) :
    Reading closed
      (pendingTokens pending ++
        (if background then Ending.background.tokens else []))
      (closed, pendingCommand pending, background) := by
  have reading : Reading closed _ (closed ++ [], _, _) :=
    .intro [] pending background rfl ready
  rwa [List.append_nil] at reading

theorem eq_operator_relation {relation : Relation} {operator : RedirectOp}
    (given : RedirectOp.ofRelation? relation = some operator) :
    relation = operator.relation := by
  cases relation <;> cases given <;> rfl

theorem exists_sign {relation : Relation} {join : Join}
    (given : Join.ofRelation? relation = some join) :
    ∃ sign : Sign, relation = sign.relation ∧ join = sign.join := by
  cases relation <;> cases given
  · exact ⟨.semi, rfl, rfl⟩
  · exact ⟨.pipe, rfl, rfl⟩
  · exact ⟨.or, rfl, rfl⟩
  · exact ⟨.and, rfl, rfl⟩

theorem eq_background {relation : Relation}
    (noRedirect : RedirectOp.ofRelation? relation = none)
    (noJoin : Join.ofRelation? relation = none) : relation = .background := by
  cases relation with
  | background => rfl
  | redirectIn | redirectOut | redirectAppend => cases noRedirect
  | semi | pipe | or | and => cases noJoin

theorem reading_of_readTokens (pending : Option Clause) {tokens : List Token}
    {result : List (Command × Join) × Command × Bool}
    (read : readTokens closed (pendingCommand pending) tokens = .ok result) :
    Reading closed (pendingTokens pending ++ tokens) result := by
  -- The command that is being read changes on the way, and with it `pending`.
  generalize here : pendingCommand pending = current at read
  fun_induction readTokens closed current tokens generalizing pending with
  | case1 closed current =>
      cases read
      cases here
      exact .single closed pending false nofun
  | case2 closed current text rest induction =>
      obtain ⟨clause, tokens, command⟩ := exists_pending_word pending text
      have reading :=
        induction (some clause) (command.trans (by rw [here])) read
      rwa [tokens, List.append_assoc] at reading
  | case3 => cases read
  | case4 closed current relation operator given started file rest induction =>
      subst here
      obtain ⟨clause, rfl⟩ := exists_of_isEmpty_pendingCommand started
      have reading :=
        induction (some (clause.addItem (.redirection ⟨operator, file⟩)))
        (clause.command_addItem_redirection _) read
      rw [pendingTokens, Clause.tokens_addItem, List.append_assoc] at reading
      rwa [eq_operator_relation given]
  | case5 => cases read
  | case6 => cases read
  | case7 => cases read
  | case8 closed current relation rest join given noRedirect started
      induction =>
      subst here
      obtain ⟨clause, rfl⟩ := exists_of_isEmpty_pendingCommand started
      obtain ⟨sign, rfl, rfl⟩ := exists_sign given
      exact (induction none rfl read).cons clause sign
  | case9 => cases read
  | case10 closed current relation rest noJoin noRedirect last =>
      subst here
      cases eq_background noRedirect noJoin
      rw [Bool.or_eq_true, not_or] at last
      obtain ⟨clause, rfl⟩ := exists_of_isEmpty_pendingCommand last.1
      have done : rest = [] := by simpa using last.2
      cases read
      rw [done]
      exact .single closed (some clause) true fun _ => rfl

/-- The commands of a line, before the builtins are marked. -/
def lineCommands (line : Line) : List (Command × Join) :=
  line.clauses.map fun entry => (entry.1.command, entry.2)

theorem closeLine_sign (closed : List (Command × Join)) (command : Command)
    (sign : Sign) :
    closeLine (closed ++ [(command, sign.join)]) Command.empty =
      if sign = .semi then .ok (closed ++ [(command, .none)])
      else .error .endOfInput := by
  cases sign <;> simp [closeLine, Command.isEmpty, Command.empty, Sign.join]

theorem compile_tokens (line : Line) :
    compile line.tokens =
      .ok
        { commands :=
            markBuiltins (line.ending == .background) false (lineCommands line)
          background := line.ending == .background } := by
  obtain ⟨joined, last, ending⟩ := line
  have read :
      readTokens [] Command.empty
        (joinedTokens joined ++ last.tokens ++ ending.tokens) =
      readTokens (joined.map fun entry => (entry.1.command, entry.2.join))
        last.command ending.tokens := by
    rw [List.append_assoc, readTokens_joined, readTokens_clause,
      List.nil_append]
  have commands : lineCommands ⟨joined, last, ending⟩ =
      (joined.map fun entry => (entry.1.command, entry.2.join)) ++
        [(last.command, .none)] := by
    simp [lineCommands, Line.clauses]
  rw [compile, Line.tokens, read, commands]
  cases ending with
  | none => rfl
  | semi =>
      change (closeLine (_ ++ [(last.command, Sign.semi.join)])
        Command.empty).bind _ = _
      rw [closeLine_sign, if_pos rfl]
      rfl
  | background => rfl

/-- Where the compiler accepts, it has read a line. -/
theorem exists_line_of_compile {tokens : List Token} {sequence : Sequence}
    (compiled : compile tokens = .ok sequence) :
    tokens = [] ∨ ∃ line : Line, line.tokens = tokens := by
  rw [compile] at compiled
  cases read : readTokens [] Command.empty tokens with
  | error error =>
      rw [read] at compiled
      cases compiled
  | ok result =>
      rw [read] at compiled
      cases reading_of_readTokens none read with
      | intro joined pending background shape ready =>
          rw [pendingTokens, List.nil_append] at shape
          cases pending with
          | some clause =>
              cases background with
              | false => exact .inr ⟨⟨joined, clause, .none⟩, shape.symm⟩
              | true => exact .inr ⟨⟨joined, clause, .background⟩, shape.symm⟩
          | none =>
              have foreground : background = false := by
                cases background with
                | false => rfl
                | true => cases ready rfl
              subst foreground
              -- No command is open: the last sign decides whether the line is
              -- complete.
              rcases List.eq_nil_or_concat joined with rfl |
                ⟨front, ⟨clause, sign⟩, rfl⟩
              · exact .inl shape
              · rw [List.concat_eq_append] at shape compiled
                rw [List.map_append, List.nil_append] at compiled
                change (closeLine
                  (_ ++ [(clause.command, sign.join)]) Command.empty).bind _ = _
                  at compiled
                rw [closeLine_sign] at compiled
                by_cases final : sign = .semi
                · subst final
                  refine .inr ⟨⟨front, clause, .semi⟩, ?_⟩
                  rw [shape]
                  simp [Line.tokens, joinedTokens, pendingTokens, Ending.tokens,
                    Sign.relation]
                · rw [if_neg final] at compiled
                  cases compiled

/-- A command holds what is written: its arguments, for each descriptor the last
redirection, in the order of these, and its join to the next command. -/
structure Renders (entry : Command × Join)
    (written : Clause × Join) : Prop where
  arguments : entry.1.arguments = written.1.arguments
  redirections : entry.1.redirections = lastPerTarget written.1.written
  lastForTarget : ∀ target,
    entry.1.redirections.filter
      (fun redirection => redirection.target == target) =
      (written.1.written.filter fun redirection =>
        redirection.target == target).getLast?.toList
  join : entry.2 = written.2

theorem renders_markBuiltins (background afterPipe : Bool)
    (clauses : List (Clause × Join)) :
    List.Forall₂ Renders
      (markBuiltins background afterPipe
        (clauses.map fun entry => (entry.1.command, entry.2)))
      clauses := by
  induction clauses generalizing afterPipe with
  | nil => exact .nil
  | cons entry clauses induction =>
      exact .cons ⟨rfl, rfl, filter_lastPerTarget entry.1.written, rfl⟩
        (induction _)

/-- Only `&` at its end sends a line to the background. -/
theorem background_iff (line : Line) :
    (line.ending == .background) = true ↔
      line.tokens.getLast? = some (.relation .background) := by
  rcases line.last_cases with ⟨ending, word, last⟩ | ⟨ending, last⟩ |
    ⟨ending, last⟩
  · simp [ending, last]
  · simp [ending, last]
  · simp [ending, last]

theorem error_of_readTokens {current : Command} {tokens : List Token}
    {error : LineError}
    (failed : readTokens closed current tokens = .error error) :
    ∃ relation,
      error = .unexpected relation ∨ error = .missingTarget relation := by
  fun_induction readTokens closed current tokens with
  | case1 => cases failed
  | case2 _ _ _ _ induction => exact induction failed
  | case3 _ _ relation =>
      cases failed
      exact ⟨relation, .inl rfl⟩
  | case4 _ _ _ _ _ _ _ _ induction => exact induction failed
  | case5 _ _ _ _ _ _ next =>
      cases failed
      exact ⟨next, .inl rfl⟩
  | case6 _ _ relation =>
      cases failed
      exact ⟨relation, .inr rfl⟩
  | case7 _ _ relation =>
      cases failed
      exact ⟨relation, .inl rfl⟩
  | case8 _ _ _ _ _ _ _ _ induction => exact induction failed
  | case9 _ _ relation =>
      cases failed
      exact ⟨relation, .inl rfl⟩
  | case10 => cases failed

theorem error_of_closeLine {closed : List (Command × Join)} {current : Command}
    {error : LineError} (failed : closeLine closed current = .error error) :
    error = .endOfInput := by
  unfold closeLine at failed
  split at failed
  · split at failed
    · cases failed
    · cases failed
    · cases failed
    · cases failed
      rfl
  · cases failed

/-- The errors of the compiler say which relation is misplaced, that a target is
missing, or that the line ends too early. -/
theorem error_of_compile {tokens : List Token} {error : LineError}
    (failed : compile tokens = .error error) :
    (∃ relation,
      error = .unexpected relation ∨ error = .missingTarget relation) ∨
      error = .endOfInput := by
  rw [compile] at failed
  cases read : readTokens [] Command.empty tokens with
  | error reason =>
      rw [read] at failed
      cases failed
      exact .inl (error_of_readTokens read)
  | ok result =>
      rw [read] at failed
      obtain ⟨closed, current, background⟩ := result
      cases closing : closeLine closed current with
      | error reason =>
          simp only [closing, bind, Except.bind] at failed
          cases failed
          exact .inr (error_of_closeLine closing)
      | ok commands =>
          simp only [closing, bind, Except.bind] at failed
          cases failed

/-- The compiler accepts the empty line and the lines of the grammar, gives an
error for everything else, and its commands are those of the line. -/
theorem compile_iff_line (tokens : List Token) :
    ((∃ sequence, compile tokens = .ok sequence) ↔
        tokens = [] ∨ ∃ line : Line, line.tokens = tokens) ∧
      ((¬(tokens = [] ∨ ∃ line : Line, line.tokens = tokens)) →
        ∃ error, compile tokens = .error error ∧
          ((∃ relation,
            error = .unexpected relation ∨ error = .missingTarget relation) ∨
            error = .endOfInput)) ∧
      (tokens = [] → compile tokens = .ok Sequence.empty) ∧
      (∀ line : Line, line.tokens = tokens →
        ∀ sequence, compile tokens = .ok sequence →
        List.Forall₂ Renders sequence.commands line.clauses) ∧
      (∀ sequence, compile tokens = .ok sequence →
        (sequence.background = true ↔
          tokens.getLast? = some (.relation .background))) := by
  have accepts : (∃ sequence, compile tokens = .ok sequence) ↔
      tokens = [] ∨ ∃ line : Line, line.tokens = tokens := by
    constructor
    · rintro ⟨sequence, compiled⟩
      exact exists_line_of_compile compiled
    · rintro (rfl | ⟨line, rfl⟩)
      · exact ⟨_, rfl⟩
      · exact ⟨_, compile_tokens line⟩
  refine ⟨accepts, ?_, ?_, ?_, ?_⟩
  · intro noLine
    cases compiled : compile tokens with
    | ok sequence => exact absurd (accepts.1 ⟨sequence, compiled⟩) noLine
    | error error => exact ⟨error, rfl, error_of_compile compiled⟩
  · rintro rfl
    rfl
  · rintro line rfl sequence compiled
    rw [compile_tokens] at compiled
    cases compiled
    exact renders_markBuiltins _ _ line.clauses
  · intro sequence compiled
    rcases accepts.1 ⟨sequence, compiled⟩ with rfl | ⟨line, rfl⟩
    · cases compiled
      simp
    · rw [compile_tokens] at compiled
      cases compiled
      exact background_iff line

theorem compile_overriddenRedirection :
    ∃ sequence, compile
        [.word "a", .relation .redirectOut, .word "f", .word "b",
          .relation .redirectAppend, .word "g", .relation .semi] =
          .ok sequence ∧
      List.Forall₂ Renders sequence.commands
        [(⟨"a",
          [.redirection ⟨.output, "f"⟩, .argument "b",
            .redirection ⟨.append, "g"⟩]⟩,
          .none)] := by
  have written : Line.tokens
      ⟨[],
        ⟨"a", [.redirection ⟨.output, "f"⟩, .argument "b",
          .redirection ⟨.append, "g"⟩]⟩, .semi⟩ =
      [.word "a", .relation .redirectOut, .word "f", .word "b",
        .relation .redirectAppend, .word "g", .relation .semi] := rfl
  obtain ⟨sequence, compiled⟩ := (compile_iff_line _).1.2 (.inr ⟨_, written⟩)
  exact ⟨sequence, compiled,
    (compile_iff_line _).2.2.2.1 _ written sequence compiled⟩

end Sequence

end JobShell
