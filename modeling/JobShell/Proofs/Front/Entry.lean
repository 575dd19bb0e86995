import JobShell.Front
import JobShell.Proofs.Interpreter.Staging
import JobShell.Proofs.Line.Idle

/-!
# What is entered

The user submits lines, ends the input, or gives up what is pending.  Whatever
has been entered, a front without pending lines stands before an idle lexer.
-/

namespace JobShell

namespace Dialogue

variable {α β : Type}

/-- The dialogue, held with this interpreter. -/
def heldWith (dialogue : Dialogue α)
    (interpreter : Interpreter) : Activity (α × Interpreter) :=
  (dialogue.expand Request.answer).run interpreter

@[simp] theorem heldWith_pure (value : α) (interpreter : Interpreter) :
    (pure value : Dialogue α).heldWith interpreter =
      pure (value, interpreter) :=
  rfl

@[simp] theorem heldWith_bind (dialogue : Dialogue α) (next : α → Dialogue β)
    (interpreter : Interpreter) :
    (dialogue >>= next).heldWith interpreter =
      dialogue.heldWith interpreter >>= fun ended =>
        (next ended.1).heldWith ended.2 := by
  induction dialogue generalizing interpreter with
  | ret value => rfl
  | call request goOn induction =>
      change (request.answer interpreter >>= fun answered =>
          heldWith ((goOn answered.1).bind next) answered.2) =
        (request.answer interpreter >>= fun answered =>
          heldWith (goOn answered.1) answered.2) >>= _
      rw [bind_assoc]
      exact bind_congr fun answered => induction answered.1 answered.2

theorem heldWith_ask (request : Request) (interpreter : Interpreter) :
    request.ask.heldWith interpreter = request.answer interpreter :=
  bind_pure (request.answer interpreter)

end Dialogue

namespace Interpreter

/-- Writes a line to the file of the history. -/
def record (interpreter : Interpreter) (line : String) : Activity Unit :=
  match interpreter.session.history.record? line with
  | some (file, text) => Functor.discard (Activity.appendText file text)
  | none => pure ()

/-- Notes a line in the history. -/
def note (interpreter : Interpreter) (line : String) : Interpreter :=
  interpreter.modifyHistory (interpreter.session.history.append line)

theorem appendHistory_eq (interpreter : Interpreter) (line : String) :
    interpreter.appendHistory line =
      interpreter.record line >>= fun _ => pure (interpreter.note line) := by
  unfold appendHistory record
  dsimp only
  cases interpreter.session.history.record? line <;> rfl

section History

variable (interpreter : Interpreter) (history : History) (line : String)

theorem lexer_modifyHistory :
    (interpreter.modifyHistory history).lexer = interpreter.lexer :=
  rfl

theorem tokens_modifyHistory :
    (interpreter.modifyHistory history).tokens = interpreter.tokens :=
  rfl

theorem completion_modifyHistory :
    (interpreter.modifyHistory history).completion = interpreter.completion :=
  rfl

theorem session_modifyHistory :
    (interpreter.modifyHistory history).session =
      { interpreter.session with history } :=
  rfl

@[simp] theorem lexer_note :
    (interpreter.note line).lexer = interpreter.lexer :=
  lexer_modifyHistory interpreter _

@[simp] theorem tokens_note :
    (interpreter.note line).tokens = interpreter.tokens :=
  tokens_modifyHistory interpreter _

@[simp] theorem completion_note :
    (interpreter.note line).completion = interpreter.completion :=
  completion_modifyHistory interpreter _

theorem session_note :
    (interpreter.note line).session =
      { interpreter.session with
        history := interpreter.session.history.append line } :=
  session_modifyHistory interpreter _

end History

end Interpreter

/-- What the user enters. -/
inductive Entry where
  | submit (line : String)
  | finish
  | discard
  deriving DecidableEq, Repr

namespace Entry

/-- Takes an entry; gives what to do next, unless it is given up. -/
def take (front : Front) : Entry → Dialogue (Option Step × Front)
  | submit line => do
    let (step, front) ← front.submit line
    pure (some step, front)
  | finish => do
    let (step, front) ← front.finish
    pure (some step, front)
  | discard => do
    let front ← front.discard
    pure (none, front)

/-- Takes entries in turn. -/
def takeAll (front : Front) : List Entry → Dialogue (List (Option Step) × Front)
  | [] => pure ([], front)
  | entry :: rest => do
    let (step, front) ← entry.take front
    let (steps, front) ← takeAll front rest
    pure (step :: steps, front)

end Entry

namespace Front

variable {front : Front} {interpreter : Interpreter}

/-- How a failure is shown. -/
def complaint (front : Front) (failure : Failure) : String :=
  front.display.error Message.error.text ++ ": " ++ failure.message

/-- Some entries, and some replies of the system, have led a shell to where it
stands. -/
def Reached (front : Front) (interpreter : Interpreter) : Prop :=
  ∃ display session seconds entries steps,
    ((Entry.takeAll (.ofDisplay display) entries).heldWith
      (.ofSession session seconds)).MayYield ((steps, front), interpreter)

theorem heldWith_submit (front : Front) (line : String)
    (interpreter : Interpreter) :
    (front.submit line).heldWith interpreter =
      (match (interpreter.parse line).1 with
        | .ok .needsMore =>
          pure (.goOn, { front with pending := front.pending ++ [line] })
        | .ok .ready =>
          runPending { front with pending := front.pending ++ [line] }
        | .error failure =>
          failPending { front with pending := front.pending ++ [line] }
            failure :
        Dialogue (Step × Front)).heldWith (interpreter.parse line).2 := by
  unfold submit Dialogue.parse
  dsimp only
  rw [Dialogue.heldWith_bind, Dialogue.heldWith_ask]
  rfl

theorem heldWith_finish (front : Front) (interpreter : Interpreter) :
    front.finish.heldWith interpreter =
      (match interpreter.finish.1 with
        | .ok _ => front.runPending
        | .error failure => front.failPending failure :
        Dialogue (Step × Front)).heldWith interpreter.finish.2 := by
  unfold finish Dialogue.finish
  rw [Dialogue.heldWith_bind, Dialogue.heldWith_ask]
  rfl

theorem heldWith_take_submit (front : Front) (line : String)
    (interpreter : Interpreter) :
    ((Entry.submit line).take front).heldWith interpreter =
      (front.submit line).heldWith interpreter >>= fun taken =>
        pure ((some taken.1.1, taken.1.2), taken.2) := by
  unfold Entry.take
  rw [Dialogue.heldWith_bind]
  rfl

theorem heldWith_take_finish (front : Front) (interpreter : Interpreter) :
    (Entry.finish.take front).heldWith interpreter =
      front.finish.heldWith interpreter >>= fun taken =>
        pure ((some taken.1.1, taken.1.2), taken.2) := by
  unfold Entry.take
  rw [Dialogue.heldWith_bind]
  rfl

theorem heldWith_takeAll_cons (front : Front) (entry : Entry)
    (rest : List Entry) (interpreter : Interpreter) :
    (Entry.takeAll front (entry :: rest)).heldWith interpreter =
      (entry.take front).heldWith interpreter >>= fun taken =>
        (Entry.takeAll taken.1.2 rest).heldWith taken.2 >>= fun later =>
          pure ((taken.1.1 :: later.1.1, later.1.2), later.2) := by
  change Dialogue.heldWith (entry.take front >>= fun taken =>
    Entry.takeAll taken.2 rest >>=
      fun later => pure (taken.1 :: later.1, later.2)) interpreter = _
  rw [Dialogue.heldWith_bind]
  refine bind_congr fun taken => ?_
  rw [Dialogue.heldWith_bind]
  rfl

theorem heldWith_closePending (front : Front) (interpreter : Interpreter) :
    front.closePending.heldWith interpreter =
      (if Text.allBlank front.text then pure interpreter
        else interpreter.appendHistory front.text) >>= fun after =>
      pure ({ front with pending := [] }, after) := by
  unfold closePending Dialogue.appendHistory
  cases Text.allBlank front.text with
  | true => rfl
  | false =>
      rw [if_neg Bool.false_ne_true]
      change Dialogue.heldWith
        ((Request.appendHistory front.text).ask >>= fun _ => pure _)
        interpreter = _
      rw [Dialogue.heldWith_bind, Dialogue.heldWith_ask]
      change (interpreter.appendHistory front.text >>=
        fun after => pure ((), after)) >>= _ = _
      rw [bind_assoc]
      rfl

theorem heldWith_failPending (front : Front) (failure : Failure)
    (interpreter : Interpreter) :
    (front.failPending failure).heldWith interpreter = (do
      let (closed, interpreter) ← front.closePending.heldWith interpreter
      Activity.say .standardError (front.complaint failure)
      pure ((.prompt, closed), interpreter)) := by
  unfold failPending showFailure Dialogue.complain
  rw [Dialogue.heldWith_bind]
  refine bind_congr fun closed => ?_
  rw [Dialogue.heldWith_bind, Dialogue.heldWith_ask]
  rfl

theorem heldWith_compileAndExecute (interpreter : Interpreter) :
    compileAndExecute.heldWith interpreter =
      match interpreter.compile.1 with
      | .ok () => interpreter.compile.2.execute
      | .error failure => pure (.error failure, interpreter.compile.2) := by
  unfold compileAndExecute Dialogue.compile
  rw [Dialogue.heldWith_bind, Dialogue.heldWith_ask]
  change Dialogue.heldWith (match interpreter.compile.1 with
    | .ok () => Dialogue.execute
    | .error failure => pure (.error failure)) interpreter.compile.2 = _
  cases interpreter.compile.1 with
  | ok => exact Dialogue.heldWith_ask .execute interpreter.compile.2
  | error failure => rfl

/-- What is left to do when a command has been run, or could not be. -/
def conclude (front closed : Front)
    (outcome : Except Failure Int) : Dialogue (Step × Front) := do
  match outcome with
  | .ok _ => pure ()
  | .error failure => front.showFailure failure
  if ← Dialogue.shouldQuit then pure (.quit, closed) else pure (.prompt, closed)

theorem runPending_eq (front : Front) :
    front.runPending = (do
      let closed ← front.closePending
      if Text.allBlank front.text then pure (.prompt, closed)
      else do
        let outcome ← compileAndExecute
        front.conclude closed outcome) :=
  rfl

def nextStep (interpreter : Interpreter) : Step :=
  if interpreter.session.quitRequested then .quit else .prompt

theorem heldWith_shouldQuit (closed : Front) (interpreter : Interpreter) :
    Dialogue.heldWith (do
        if ← Dialogue.shouldQuit then pure (Step.quit, closed)
        else pure (Step.prompt, closed)) interpreter =
      pure ((nextStep interpreter, closed), interpreter) := by
  unfold Dialogue.shouldQuit nextStep
  rw [Dialogue.heldWith_bind, Dialogue.heldWith_ask]
  change Dialogue.heldWith (if interpreter.session.quitRequested =
    true then _ else _) interpreter = _
  cases interpreter.session.quitRequested <;> rfl

theorem heldWith_conclude (front closed : Front) (outcome : Except Failure Int)
    (interpreter : Interpreter) :
    (front.conclude closed outcome).heldWith interpreter = (do
      match outcome with
      | .ok _ => pure ()
      | .error failure =>
        Activity.say .standardError (front.complaint failure)
      pure ((nextStep interpreter, closed), interpreter)) := by
  unfold conclude
  cases outcome with
  | ok status => exact heldWith_shouldQuit closed interpreter
  | error failure =>
      change Dialogue.heldWith (front.showFailure failure >>= fun _ => _)
        interpreter = _
      rw [Dialogue.heldWith_bind]
      simp only [heldWith_shouldQuit]
      rfl

theorem heldWith_runPending_of_blank (blank : Text.allBlank front.text = true) :
    front.runPending.heldWith interpreter =
      pure ((.prompt, { front with pending := [] }), interpreter) := by
  rw [runPending_eq, Dialogue.heldWith_bind, heldWith_closePending]
  simp only [blank, if_true, pure_bind]
  rfl

theorem heldWith_runPending (notBlank : Text.allBlank front.text = false) :
    front.runPending.heldWith interpreter = (do
      let interpreter ← interpreter.appendHistory front.text
      let ran ← compileAndExecute.heldWith interpreter
      (front.conclude { front with pending := [] } ran.1).heldWith ran.2) := by
  rw [runPending_eq, Dialogue.heldWith_bind, heldWith_closePending]
  simp only [notBlank, Bool.false_eq_true, if_false, bind_assoc, pure_bind]
  refine bind_congr fun interpreter => ?_
  exact Dialogue.heldWith_bind _ _ _

theorem ensures_appendHistory (interpreter : Interpreter) (line : String) :
    (interpreter.appendHistory line).Ensures fun after =>
      after.lexer = interpreter.lexer := by
  rw [Interpreter.appendHistory_eq]
  exact .bind (.trivial _) fun _ _ => .ret (interpreter.lexer_note line)

/-- Nothing is pending any more, and the lexer has not been used. -/
structure Closes {α : Type} (interpreter : Interpreter) (front : α → Front)
    (result : α × Interpreter) : Prop where
  pending : (front result.1).pending = []
  lexer : result.2.lexer = interpreter.lexer

theorem ensures_closePending (front : Front) (interpreter : Interpreter) :
    (front.closePending.heldWith interpreter).Ensures
      (Closes interpreter id) := by
  rw [heldWith_closePending]
  split
  · exact .ret ⟨rfl, rfl⟩
  · exact (ensures_appendHistory _ _).bind fun _ kept => .ret ⟨rfl, kept⟩

theorem ensures_failPending (front : Front) (failure : Failure)
    (interpreter : Interpreter) :
    ((front.failPending failure).heldWith interpreter).Ensures
      (Closes interpreter Prod.snd) := by
  rw [heldWith_failPending]
  refine (ensures_closePending front interpreter).bind fun _ closes => ?_
  exact .bind (.trivial _) fun _ _ => .ret ⟨closes.pending, closes.lexer⟩

theorem lexer_compile (interpreter : Interpreter) :
    interpreter.compile.2.lexer = interpreter.lexer := by
  unfold Interpreter.compile
  split
  · rfl
  · dsimp only
    split <;> rfl

theorem ensures_compileAndExecute (interpreter : Interpreter) :
    (compileAndExecute.heldWith interpreter).Ensures
      fun result => result.2.lexer = interpreter.lexer := by
  rw [heldWith_compileAndExecute]
  split
  · rw [← lexer_compile interpreter]
    unfold Interpreter.execute
    split
    · exact .ret rfl
    · exact .bind (.trivial _) fun _ _ => .ret rfl
  · exact .ret (lexer_compile interpreter)

theorem ensures_runPending (front : Front) (interpreter : Interpreter) :
    (front.runPending.heldWith interpreter).Ensures
      (Closes interpreter Prod.snd) := by
  cases blank : Text.allBlank front.text with
  | true =>
      rw [heldWith_runPending_of_blank blank]
      exact .ret ⟨rfl, rfl⟩
  | false =>
      rw [heldWith_runPending blank]
      refine (ensures_appendHistory interpreter front.text).bind
        fun recorded sameLexer => ?_
      refine (ensures_compileAndExecute recorded).bind
        fun (outcome, ran) kept => ?_
      rw [heldWith_conclude]
      have ends : ran.lexer = interpreter.lexer := kept.trans sameLexer
      cases outcome with
      | ok status => exact .ret ⟨rfl, ends⟩
      | error failure => exact .bind (.trivial _) fun _ _ => .ret ⟨rfl, ends⟩

/-- The lexer has been used for lines only, and it is idle unless lines are
pending. -/
structure Stands (front : Front) (interpreter : Interpreter) : Prop where
  reachable : interpreter.lexer.Reachable
  idle : front.pending = [] → interpreter.lexer.IsIdle

theorem lexer_parse (interpreter : Interpreter) (line : String) :
    (interpreter.parse line).2.lexer = (interpreter.lexer.feed line).2 := by
  unfold Interpreter.parse
  split <;> next fed => simp [fed]

theorem lexer_finish (interpreter : Interpreter) :
    interpreter.finish.2.lexer = .fresh := by
  have ended : interpreter.lexer.finish.2 = .fresh := rfl
  unfold Interpreter.finish
  split <;> next finished => simpa [finished] using ended

theorem isIdle_of_parse {line : String}
    (done : (interpreter.parse line).1 ≠ .ok .needsMore) :
    (interpreter.parse line).2.lexer.IsIdle := by
  rw [lexer_parse]
  unfold Interpreter.parse at done
  cases fed : (interpreter.lexer.feed line).1 with
  | error error =>
      rw [Lexer.feed_of_error fed]
      exact .fresh
  | ok feed =>
      cases feed with
      | complete tokens => exact Lexer.isIdle_of_complete fed
      | needsMore =>
          have shape : interpreter.lexer.feed line =
            (.ok .needsMore, (interpreter.lexer.feed line).2) :=
            Prod.ext fed rfl
          rw [shape] at done
          exact absurd rfl done

/-- What a shell comes to stands as a shell does. -/
def Settles {α : Type} (result : (α × Front) × Interpreter) : Prop :=
  result.1.2.Stands result.2

theorem Closes.settles {α : Type} {result : (α × Front) × Interpreter}
    (closes : Closes interpreter Prod.snd result)
    (reachable : interpreter.lexer.Reachable)
    (idle : interpreter.lexer.IsIdle) : Settles result where
  reachable := closes.lexer ▸ reachable
  idle := fun _ => closes.lexer ▸ idle

theorem Stands.submit (stands : front.Stands interpreter) (line : String) :
    ((front.submit line).heldWith interpreter).Ensures Settles := by
  have reachable : (interpreter.parse line).2.lexer.Reachable := by
    rw [lexer_parse]
    exact stands.reachable.feed line
  rw [heldWith_submit]
  cases parsed : (interpreter.parse line).1 with
  | error failure =>
      have idle : (interpreter.parse line).2.lexer.IsIdle :=
        isIdle_of_parse (by rw [parsed]; nofun)
      exact (ensures_failPending _ failure _).mono fun _ closes =>
        closes.settles reachable idle
  | ok reading =>
      cases reading with
      | ready =>
          have idle : (interpreter.parse line).2.lexer.IsIdle :=
            isIdle_of_parse (by rw [parsed]; nofun)
          exact (ensures_runPending _ _).mono fun _ closes =>
            closes.settles reachable idle
      | needsMore => exact .ret ⟨reachable, fun nothing => by simp at nothing⟩

theorem ensures_finish (front : Front) (interpreter : Interpreter) :
    (front.finish.heldWith interpreter).Ensures Settles := by
  have ended : interpreter.finish.2.lexer = .fresh := lexer_finish interpreter
  have reachable : interpreter.finish.2.lexer.Reachable := ended ▸ .fresh
  have idle : interpreter.finish.2.lexer.IsIdle := ended ▸ .fresh
  rw [heldWith_finish]
  split
  · exact (ensures_runPending front _).mono fun _ closes =>
      closes.settles reachable idle
  · exact (ensures_failPending front _ _).mono fun _ closes =>
      closes.settles reachable idle

theorem Stands.take (stands : front.Stands interpreter) (entry : Entry) :
    ((entry.take front).heldWith interpreter).Ensures Settles := by
  cases entry with
  | submit line =>
      rw [heldWith_take_submit]
      exact (stands.submit line).bind fun _ settles => .ret settles
  | finish =>
      rw [heldWith_take_finish]
      exact (ensures_finish front interpreter).bind fun _ settles =>
        .ret settles
  | discard => exact .ret ⟨.fresh, fun _ => .fresh⟩

theorem Stands.takeAll (stands : front.Stands interpreter)
    (entries : List Entry) :
    ((Entry.takeAll front entries).heldWith interpreter).Ensures Settles := by
  induction entries generalizing front interpreter with
  | nil => exact .ret stands
  | cons entry rest induction =>
      rw [heldWith_takeAll_cons]
      refine (stands.take entry).bind fun _ settles => ?_
      exact (induction settles).bind fun _ later => .ret later

theorem Reached.stands (reached : front.Reached interpreter) :
    front.Stands interpreter := by
  obtain ⟨display, session, seconds, entries, steps, yields⟩ := reached
  have begins : (ofDisplay display).Stands (.ofSession session seconds) :=
    ⟨.fresh, fun _ => .fresh⟩
  exact (begins.takeAll entries).of_mayYield yields

end Front

end JobShell
