import JobShell.Proofs.Execution.Blindness
import JobShell.Proofs.Front.Entry

/-!
# Shells that agree

Two shells whose lexers go on in the same way, and whose sessions differ in
nothing but their histories, run in lockstep whatever is entered.  What waits to
be compiled or executed from before does not count: a front only compiles what
it has just read, and only executes what it has just compiled.
-/

namespace JobShell

/-- Histories that are related belong to the same file, and they stay related
when a line is added to both. -/
structure History.IsKept (related : History → History → Prop) : Prop where
  file : ∀ {history twin : History}, related history twin →
    twin.file = history.file
  append : ∀ {history twin : History}, related history twin →
    ∀ line, related (history.append line) (twin.append line)

open Activity Shell

variable {related : History → History → Prop}

namespace Interpreter

/-- The interpreters go on in the same way when they are given a command. -/
structure Agrees (related : History → History → Prop)
    (interpreter twin : Interpreter) : Prop where
  lexers : interpreter.lexer.Alike twin.lexer
  sessions : interpreter.session.Agrees related twin.session
  completions : twin.completion = interpreter.completion

/-- The same result, and interpreters that agree. -/
structure AnswersAlike (related : History → History → Prop) {α : Type}
    (ended other : α × Interpreter) : Prop where
  result : other.1 = ended.1
  interpreters : ended.2.Agrees related other.2

/-- What both do with one result, in interpreters that agree. -/
theorem lockstep_bind {α β γ : Type} {agree : β → γ → Prop}
    {first second : Activity (α × Interpreter)}
    {next : α × Interpreter → Activity β} {other : α × Interpreter → Activity γ}
    (lockstep : Lockstep related (AnswersAlike related) first second)
    (goOn : ∀ value ended twin, Agrees related ended twin →
      Lockstep related agree (next (value, ended)) (other (value, twin))) :
    Lockstep related agree (first >>= next) (second >>= other) := by
  refine lockstep.bind ?_
  rintro ⟨value, ended⟩ ⟨_, twin⟩ ⟨same, agrees⟩
  cases same
  exact goOn value ended twin agrees

namespace Agrees

variable {interpreter twin : Interpreter}

theorem parse (agree : interpreter.Agrees related twin) (line : String) :
    AnswersAlike related (interpreter.parse line) (twin.parse line) ∧
      ((interpreter.parse line).1 = .ok .ready →
        (twin.parse line).2.tokens = (interpreter.parse line).2.tokens) := by
  have alike := agree.lexers.feed line
  unfold Interpreter.parse
  generalize interpreter.lexer.feed line = fed at alike ⊢
  generalize twin.lexer.feed line = other at alike ⊢
  obtain ⟨outcome, lexer⟩ := fed
  obtain ⟨_, otherLexer⟩ := other
  obtain ⟨same, lexers⟩ := alike
  cases same
  rcases outcome with error | feed
  · exact ⟨⟨rfl, lexers, agree.sessions, agree.completions⟩, nofun⟩
  · cases feed with
    | complete tokens =>
        exact ⟨⟨rfl, lexers, agree.sessions, agree.completions⟩, fun _ => rfl⟩
    | needsMore =>
        exact ⟨⟨rfl, lexers, agree.sessions, agree.completions⟩, nofun⟩

theorem finish (agree : interpreter.Agrees related twin) :
    AnswersAlike related interpreter.finish twin.finish ∧
      (∀ reading, interpreter.finish.1 = .ok reading →
        twin.finish.2.tokens = interpreter.finish.2.tokens) := by
  unfold Interpreter.finish
  rw [agree.lexers.finish]
  rcases interpreter.lexer.finish with ⟨finished, lexer⟩
  cases finished with
  | error error =>
      exact ⟨⟨rfl, .refl lexer, agree.sessions, agree.completions⟩, nofun⟩
  | ok tokens =>
      exact ⟨⟨rfl, .refl lexer, agree.sessions, agree.completions⟩,
        fun _ _ => rfl⟩

theorem discard (agree : interpreter.Agrees related twin) :
    interpreter.discard.Agrees related twin.discard :=
  ⟨.refl .fresh, agree.sessions, agree.completions⟩

theorem compile (agree : interpreter.Agrees related twin)
    (tokens : twin.tokens = interpreter.tokens) :
    AnswersAlike related interpreter.compile twin.compile ∧
      (interpreter.compile.1 = .ok () →
        twin.compile.2.compiled = interpreter.compile.2.compiled) := by
  unfold Interpreter.compile
  rw [tokens]
  cases interpreter.tokens with
  | none => exact ⟨⟨rfl, agree⟩, nofun⟩
  | some tokens =>
      dsimp only
      cases Sequence.compile tokens with
      | error error =>
          exact ⟨⟨rfl, agree.lexers, agree.sessions, agree.completions⟩, nofun⟩
      | ok sequence =>
          exact ⟨⟨rfl, agree.lexers, agree.sessions, agree.completions⟩,
            fun _ => rfl⟩

theorem inSession {α : Type} {action : Shell α}
    (agree : interpreter.Agrees related twin) (blind : IsBlind related action) :
    Lockstep related (AnswersAlike related) (interpreter.inSession action)
      (twin.inSession action) := by
  refine (blind _ _ agree.sessions).bind fun ended other alike => ?_
  exact .ret ⟨alike.outcome, agree.lexers, alike.sessions, agree.completions⟩

theorem execute (agree : interpreter.Agrees related twin)
    (compiled : twin.compiled = interpreter.compiled) :
    Lockstep related (AnswersAlike related) interpreter.execute
      twin.execute := by
  unfold Interpreter.execute
  rw [compiled]
  cases interpreter.compiled with
  | none => exact .ret ⟨rfl, agree⟩
  | some sequence =>
      have emptied : Agrees related { interpreter with compiled := none }
          { twin with compiled := none } :=
        ⟨agree.lexers, agree.sessions, agree.completions⟩
      exact emptied.inSession (isBlind_execute sequence)

theorem note (kept : History.IsKept related)
    (agree : interpreter.Agrees related twin) (line : String) :
    (interpreter.note line).Agrees related (twin.note line) where
  lexers := by
    rw [lexer_note, lexer_note]
    exact agree.lexers
  sessions := by
    have histories := kept.append agree.sessions.histories line
    rw [session_note, session_note]
    refine ⟨histories, ?_⟩
    conv_lhs => rw [agree.sessions.rest]
    rfl
  completions := by
    rw [completion_note, completion_note]
    exact agree.completions

theorem record (kept : History.IsKept related)
    (agree : interpreter.Agrees related twin)
    (line : String) : twin.record line = interpreter.record line := by
  unfold Interpreter.record History.record?
  rw [kept.file agree.sessions.histories]

end Agrees

end Interpreter

namespace Front

open Interpreter

variable {interpreter twin : Interpreter}

theorem closePending_lockstep (kept : History.IsKept related)
    (agree : interpreter.Agrees related twin) (front : Front) :
    Lockstep related (AnswersAlike related)
      (front.closePending.heldWith interpreter)
      (front.closePending.heldWith twin) := by
  rw [heldWith_closePending, heldWith_closePending]
  split
  · exact .ret ⟨rfl, agree⟩
  · rw [appendHistory_eq, appendHistory_eq, agree.record kept,
      bind_assoc, bind_assoc]
    exact .after _ fun _ => .ret ⟨rfl, agree.note kept front.text⟩

theorem failPending_lockstep (kept : History.IsKept related)
    (agree : interpreter.Agrees related twin) (front : Front)
    (failure : Failure) :
    Lockstep related (AnswersAlike related)
      ((front.failPending failure).heldWith interpreter)
      ((front.failPending failure).heldWith twin) := by
  rw [heldWith_failPending, heldWith_failPending]
  refine lockstep_bind (closePending_lockstep kept agree front)
    fun closed _ _ agree => ?_
  exact .after _ fun _ => .ret ⟨rfl, agree⟩

theorem compileAndExecute_lockstep (agree : interpreter.Agrees related twin)
    (tokens : twin.tokens = interpreter.tokens) :
    Lockstep related (AnswersAlike related)
      (compileAndExecute.heldWith interpreter)
      (compileAndExecute.heldWith twin) := by
  obtain ⟨⟨same, agree⟩, compiled⟩ := agree.compile tokens
  rw [heldWith_compileAndExecute, heldWith_compileAndExecute, same]
  cases compiles : interpreter.compile.1 with
  | ok => exact agree.execute (compiled compiles)
  | error failure => exact .ret ⟨rfl, agree⟩

theorem conclude_lockstep (agree : interpreter.Agrees related twin)
    (front closed : Front) (outcome : Except Failure Int) :
    Lockstep related (AnswersAlike related)
      ((front.conclude closed outcome).heldWith interpreter)
      ((front.conclude closed outcome).heldWith twin) := by
  have step : nextStep twin = nextStep interpreter := by
    unfold nextStep
    rw [agree.sessions.rest]
    rfl
  rw [heldWith_conclude, heldWith_conclude, step]
  cases outcome with
  | ok status => exact .ret ⟨rfl, agree⟩
  | error failure => exact .after _ fun _ => .ret ⟨rfl, agree⟩

theorem runPending_lockstep (kept : History.IsKept related)
    (agree : interpreter.Agrees related twin)
    (tokens : twin.tokens = interpreter.tokens) (front : Front) :
    Lockstep related (AnswersAlike related)
      (front.runPending.heldWith interpreter)
      (front.runPending.heldWith twin) := by
  cases blank : Text.allBlank front.text with
  | true =>
      rw [heldWith_runPending_of_blank blank,
        heldWith_runPending_of_blank blank]
      exact .ret ⟨rfl, agree⟩
  | false =>
      -- what waits in both is what both have just read, and noting leaves it
      -- alone
      have noted : (twin.note front.text).tokens =
          (interpreter.note front.text).tokens := by
        simp [tokens]
      rw [heldWith_runPending blank, heldWith_runPending blank,
        appendHistory_eq, appendHistory_eq, agree.record kept,
        bind_assoc, bind_assoc]
      refine .after _ fun _ => ?_
      have ran := compileAndExecute_lockstep (agree.note kept front.text) noted
      exact lockstep_bind ran fun outcome _ _ agree =>
        conclude_lockstep agree front _ outcome

theorem submit_lockstep (kept : History.IsKept related)
    (agree : interpreter.Agrees related twin) (front : Front) (line : String) :
    Lockstep related (AnswersAlike related)
      ((front.submit line).heldWith interpreter)
      ((front.submit line).heldWith twin) := by
  obtain ⟨⟨same, agree⟩, tokens⟩ := agree.parse line
  rw [heldWith_submit, heldWith_submit, same]
  cases parsed : (interpreter.parse line).1 with
  | error failure => exact failPending_lockstep kept agree _ failure
  | ok reading =>
      cases reading with
      | ready => exact runPending_lockstep kept agree (tokens parsed) _
      | needsMore => exact .ret ⟨rfl, agree⟩

theorem finish_lockstep (kept : History.IsKept related)
    (agree : interpreter.Agrees related twin) (front : Front) :
    Lockstep related (AnswersAlike related) (front.finish.heldWith interpreter)
      (front.finish.heldWith twin) := by
  obtain ⟨⟨same, agree⟩, tokens⟩ := agree.finish
  rw [heldWith_finish, heldWith_finish, same]
  cases finished : interpreter.finish.1 with
  | error failure => exact failPending_lockstep kept agree front failure
  | ok reading =>
      exact runPending_lockstep kept agree (tokens reading finished) front

theorem take_lockstep (kept : History.IsKept related)
    (agree : interpreter.Agrees related twin) (front : Front) (entry : Entry) :
    Lockstep related (AnswersAlike related)
      ((entry.take front).heldWith interpreter)
      ((entry.take front).heldWith twin) := by
  cases entry with
  | submit line =>
      rw [heldWith_take_submit, heldWith_take_submit]
      have submitted := submit_lockstep kept agree front line
      exact lockstep_bind submitted fun _ _ _ agree => .ret ⟨rfl, agree⟩
  | finish =>
      rw [heldWith_take_finish, heldWith_take_finish]
      have finished := finish_lockstep kept agree front
      exact lockstep_bind finished fun _ _ _ agree => .ret ⟨rfl, agree⟩
  | discard => exact .ret ⟨rfl, agree.discard⟩

theorem takeAll_lockstep (kept : History.IsKept related)
    (agree : interpreter.Agrees related twin) (front : Front)
    (entries : List Entry) :
    Lockstep related (AnswersAlike related)
      ((Entry.takeAll front entries).heldWith interpreter)
      ((Entry.takeAll front entries).heldWith twin) := by
  induction entries generalizing front interpreter twin with
  | nil => exact .ret ⟨rfl, agree⟩
  | cons entry rest induction =>
      rw [heldWith_takeAll_cons, heldWith_takeAll_cons]
      have taken := take_lockstep kept agree front entry
      refine lockstep_bind taken fun (_, after) _ _ agree => ?_
      exact lockstep_bind (induction agree after) fun _ _ _ agree =>
        .ret ⟨rfl, agree⟩

end Front

end JobShell
