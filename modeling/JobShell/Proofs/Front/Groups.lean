import JobShell.Proofs.Front.Traceless
import JobShell.Proofs.Line.Calls

/-!
# Groups of lines

The lines that are entered fall into groups.  A line that asks for more leaves
its group open; any other line closes it, and so does the end of the input.
Giving up drops the open group.  Which groups there are can be told from the
entries and from what each of them gave; the front, the lexer and the history
keep in step with that account.
-/

namespace JobShell

/-- The entry that a group of lines makes in the history; a blank group makes
none. -/
def History.entryOf? (lines : List String) : Option String :=
  if Text.allBlank ("\n".intercalate lines) then none
  else some (History.oneLine ("\n".intercalate lines))

/-- The lines of the open group, and the groups that have been closed, oldest
first. -/
structure Account where
  openLines : List String
  closed : List (List String)
  deriving DecidableEq, Repr

namespace Account

/-- Takes in an entry together with what it gave. -/
def note (account : Account) : Entry × Option Step → Account
  | (.submit line, some .goOn) =>
    { account with openLines := account.openLines ++ [line] }
  | (.submit line, _) =>
    { openLines := [],
      closed := account.closed ++ [account.openLines ++ [line]] }
  | (.finish, _) =>
    { openLines := [], closed := account.closed ++ [account.openLines] }
  | (.discard, _) => { account with openLines := [] }

def noteAll (account : Account)
    (calls : List (Entry × Option Step)) : Account :=
  calls.foldl note account

def ofCalls (calls : List (Entry × Option Step)) : Account :=
  noteAll { openLines := [], closed := [] } calls

theorem ofCalls_concat (calls : List (Entry × Option Step))
    (call : Entry × Option Step) :
    ofCalls (calls ++ [call]) = (ofCalls calls).note call :=
  List.foldl_append ..

theorem openLines_note_ne_nil_iff (account : Account)
    (call : Entry × Option Step) :
    (account.note call).openLines ≠ [] ↔
      ∃ line, call = (.submit line, some .goOn) := by
  obtain ⟨entry, step⟩ := call
  cases entry with
  | submit line =>
      rcases step with _ | _ | _ | _ <;> simp [note]
  | finish => simp [note]
  | discard => simp [note]

/-- Lines are open exactly behind a line that asked for more. -/
theorem openLines_ofCalls_ne_nil_iff (calls : List (Entry × Option Step)) :
    (ofCalls calls).openLines ≠ [] ↔
      ∃ line, calls.getLast? = some (.submit line, some .goOn) := by
  rcases List.eq_nil_or_concat calls with rfl | ⟨earlier, last, rfl⟩
  · simp [ofCalls, noteAll]
  · rw [List.concat_eq_append, ofCalls_concat, openLines_note_ne_nil_iff]
    simp

end Account

namespace History

theorem entryOf?_of_blank {lines : List String}
    (blank : Text.allBlank ("\n".intercalate lines) = true) :
    entryOf? lines = none :=
  if_pos blank

theorem entries_append_of_text {lines : List String}
    (notBlank : Text.allBlank ("\n".intercalate lines) = false)
    (history : History) :
    (history.append ("\n".intercalate lines)).entries =
      history.entries ++ (entryOf? lines).toList := by
  rw [append_of_text notBlank, entryOf?, notBlank]
  rfl

end History

namespace Interpreter

variable {interpreter after : Interpreter}

/-- One group has been noted in the history, or none where it is blank. -/
def Notes (interpreter : Interpreter) (lines : List String)
    (after : Interpreter) : Prop :=
  after.session.history.entries =
    interpreter.session.history.entries ++ (History.entryOf? lines).toList

theorem notes_of_blank {lines : List String}
    (blank : Text.allBlank ("\n".intercalate lines) = true)
    (same : after.session.history = interpreter.session.history) :
    interpreter.Notes lines after := by
  rw [Notes, same, History.entryOf?_of_blank blank, Option.toList_none,
    List.append_nil]

theorem notes_note {lines : List String}
    (notBlank : Text.allBlank ("\n".intercalate lines) = false)
    (interpreter : Interpreter) :
    interpreter.Notes lines (interpreter.note ("\n".intercalate lines)) :=
  History.entries_append_of_text notBlank interpreter.session.history

theorem Notes.trans_same {lines : List String} {last : Interpreter}
    (notes : interpreter.Notes lines after)
    (same : last.session.history = after.session.history) :
    interpreter.Notes lines last := by
  rw [Notes, same]
  exact notes

theorem Notes.behind {first : Interpreter} {lines : List String}
    (same : interpreter.session.history = first.session.history)
    (notes : interpreter.Notes lines after) : first.Notes lines after := by
  rw [Notes, ← same]
  exact notes

/-- Whatever is executed, the history stays as it is. -/
theorem ensures_history_execute (interpreter : Interpreter) :
    interpreter.execute.Ensures fun result =>
      result.2.session.history = interpreter.session.history := by
  -- A run that agrees with itself on one history never leaves that history.
  have agrees : interpreter.Agrees
      (fun history _ => history = interpreter.session.history) interpreter :=
    ⟨.refl _, ⟨rfl, rfl⟩, rfl⟩
  exact (agrees.execute rfl).ensures.mono fun _ ⟨_, alike⟩ =>
    alike.interpreters.sessions.histories

end Interpreter

namespace Front

open Interpreter

variable {front : Front} {interpreter : Interpreter}

theorem notes_closePending (front : Front) (interpreter : Interpreter) :
    (front.closePending.heldWith interpreter).Ensures fun closed =>
      interpreter.Notes front.pending closed.2 := by
  rw [heldWith_closePending]
  cases blank : Text.allBlank front.text with
  | true => exact .ret (notes_of_blank blank rfl)
  | false =>
      rw [appendHistory_eq]
      exact .bind (.bind (.trivial _) fun _ _ =>
        .ret (notes_note blank interpreter)) fun _ notes => .ret notes

theorem notes_failPending (front : Front) (failure : Failure)
    (interpreter : Interpreter) :
    ((front.failPending failure).heldWith interpreter).Ensures fun ended =>
      interpreter.Notes front.pending ended.2 := by
  rw [heldWith_failPending]
  refine (notes_closePending front interpreter).bind fun _ notes => ?_
  exact .bind (.trivial _) fun _ _ => .ret notes

theorem history_compileAndExecute (interpreter : Interpreter) :
    (compileAndExecute.heldWith interpreter).Ensures fun result =>
      result.2.session.history = interpreter.session.history := by
  have compiled : interpreter.compile.2.session.history =
      interpreter.session.history :=
    congrArg Session.history (keeps_compile interpreter).session
  rw [heldWith_compileAndExecute]
  split
  · exact (ensures_history_execute _).mono fun _ same => same.trans compiled
  · exact .ret compiled

theorem notes_runPending (front : Front) (interpreter : Interpreter) :
    (front.runPending.heldWith interpreter).Ensures fun ended =>
      interpreter.Notes front.pending ended.2 := by
  cases blank : Text.allBlank front.text with
  | true =>
      rw [heldWith_runPending_of_blank blank]
      exact .ret (notes_of_blank blank rfl)
  | false =>
      rw [heldWith_runPending blank, appendHistory_eq]
      refine .bind (.bind (.trivial _) fun _ _ =>
        .ret (notes_note blank interpreter)) fun noted notes => ?_
      refine (history_compileAndExecute noted).bind
        fun (outcome, ran) same => ?_
      have ends : interpreter.Notes front.pending ran := notes.trans_same same
      rw [heldWith_conclude]
      cases outcome with
      | ok status => exact .ret ends
      | error failure => exact .bind (.trivial _) fun _ _ => .ret ends

/-- The group is closed: it is noted, nothing is pending, and no more lines are
asked for. -/
structure ClosesGroup (interpreter : Interpreter) (group : List String)
    (ended : (Step × Front) × Interpreter) : Prop where
  step : ended.1.1 ≠ .goOn
  closes : Closes interpreter Prod.snd ended
  notes : interpreter.Notes group ended.2

theorem step_failPending (front : Front) (failure : Failure)
    (interpreter : Interpreter) :
    ((front.failPending failure).heldWith interpreter).Ensures fun ended =>
      ended.1.1 ≠ .goOn := by
  rw [heldWith_failPending]
  exact .bind (.trivial _) fun _ _ => .bind (.trivial _) fun _ _ => .ret nofun

theorem nextStep_ne_goOn (interpreter : Interpreter) :
    nextStep interpreter ≠ .goOn := by
  unfold nextStep
  split <;> nofun

theorem step_runPending (front : Front) (interpreter : Interpreter) :
    (front.runPending.heldWith interpreter).Ensures fun ended =>
      ended.1.1 ≠ .goOn := by
  cases blank : Text.allBlank front.text with
  | true =>
      rw [heldWith_runPending_of_blank blank]
      exact .ret nofun
  | false =>
      rw [heldWith_runPending blank]
      refine .bind (.trivial _) fun _ _ =>
        .bind (.trivial _) fun (outcome, ran) _ => ?_
      rw [heldWith_conclude]
      cases outcome with
      | ok status => exact .ret (nextStep_ne_goOn ran)
      | error failure =>
          exact .bind (.trivial _) fun _ _ => .ret (nextStep_ne_goOn ran)

theorem closesGroup_failPending (front : Front) (failure : Failure)
    (interpreter : Interpreter) :
    ((front.failPending failure).heldWith interpreter).Ensures
      (ClosesGroup interpreter front.pending) :=
  (((step_failPending front failure interpreter).and
    (ensures_failPending front failure interpreter)).and
    (notes_failPending front failure interpreter)).mono
      fun _ ⟨⟨step, closes⟩, notes⟩ => ⟨step, closes, notes⟩

theorem closesGroup_runPending (front : Front) (interpreter : Interpreter) :
    (front.runPending.heldWith interpreter).Ensures
      (ClosesGroup interpreter front.pending) :=
  (((step_runPending front interpreter).and
    (ensures_runPending front interpreter)).and
    (notes_runPending front interpreter)).mono
      fun _ ⟨⟨step, closes⟩, notes⟩ => ⟨step, closes, notes⟩

/-- The front and the interpreter stand where the account says, with a history
that was `entries` when the account began. -/
structure InStep (entries : List String) (account : Account) (front : Front)
    (interpreter : Interpreter) : Prop where
  pending : front.pending = account.openLines
  reachable : interpreter.lexer.Reachable
  lexers : (Lexer.fresh.fed account.openLines).Alike interpreter.lexer
  history : interpreter.session.history.entries =
    entries ++ account.closed.filterMap History.entryOf?

variable {entries : List String} {account : Account}

theorem inStep_begun (display : Display) (session : Session) (seconds : Nat) :
    InStep session.history.entries (.ofCalls []) (.ofDisplay display)
      (.ofSession session seconds) where
  pending := rfl
  reachable := .fresh
  lexers := .refl .fresh
  history := (List.append_nil _).symm

namespace InStep

/-- What has closed a group stands in step with an account of one more group. -/
theorem close {middle : Interpreter} {group : List String}
    {ended : (Step × Front) × Interpreter}
    (inStep : InStep entries account front interpreter)
    (same : middle.session.history = interpreter.session.history)
    (reachable : middle.lexer.Reachable) (idle : middle.lexer.IsIdle)
    (closes : ClosesGroup middle group ended) :
    InStep entries { openLines := [],
                     closed :=
                       account.closed ++ [group] } ended.1.2 ended.2 where
  pending := closes.closes.pending
  reachable := closes.closes.lexer ▸ reachable
  lexers := closes.closes.lexer ▸ idle.alike_fresh reachable
  history := by
    have grown : interpreter.Notes group ended.2 := closes.notes.behind same
    rw [grown, inStep.history, List.filterMap_append, List.append_assoc]
    cases noted : History.entryOf? group <;> simp [noted]

theorem submit (inStep : InStep entries account front interpreter)
    (line : String) :
    ((front.submit line).heldWith interpreter).Ensures fun ended =>
      InStep entries (account.note (.submit line, some ended.1.1)) ended.1.2
        ended.2 := by
  have reachable : (interpreter.parse line).2.lexer.Reachable := by
    rw [lexer_parse]
    exact inStep.reachable.feed line
  have same : (interpreter.parse line).2.session.history =
      interpreter.session.history :=
    congrArg Session.history (keeps_parse interpreter line).session
  have whole : front.pending ++ [line] = account.openLines ++ [line] := by
    rw [inStep.pending]
  -- every end but the one that asks for more closes the group
  have closed : ∀ ended : (Step × Front) × Interpreter,
      (interpreter.parse line).2.lexer.IsIdle →
      ClosesGroup (interpreter.parse line).2 (front.pending ++ [line]) ended →
      InStep entries (account.note (.submit line, some ended.1.1)) ended.1.2
        ended.2 := by
    intro ended idle closes
    have stands := inStep.close same reachable idle closes
    rw [whole] at stands
    obtain ⟨⟨step, after⟩, ran⟩ := ended
    cases step with
    | goOn => exact absurd rfl closes.step
    | prompt => exact stands
    | quit => exact stands
  rw [heldWith_submit]
  cases parsed : (interpreter.parse line).1 with
  | error failure =>
      have idle := isIdle_of_parse (by rw [parsed]; nofun)
      exact (closesGroup_failPending _ failure _).mono fun ended =>
        closed ended idle
  | ok reading =>
      cases reading with
      | ready =>
          have idle := isIdle_of_parse (by rw [parsed]; nofun)
          exact (closesGroup_runPending _ _).mono fun ended => closed ended idle
      | needsMore =>
          refine .ret ⟨whole, reachable, ?_, ?_⟩
          · change (Lexer.fresh.fed (account.openLines ++ [line])).Alike
              (interpreter.parse line).2.lexer
            rw [lexer_parse, Lexer.fed_concat]
            exact (inStep.lexers.feed line).2
          · exact (congrArg History.entries same).trans inStep.history

theorem finish (inStep : InStep entries account front interpreter) :
    (front.finish.heldWith interpreter).Ensures fun ended =>
      InStep entries (account.note (.finish, some ended.1.1)) ended.1.2
        ended.2 := by
  have ended : interpreter.finish.2.lexer = .fresh := lexer_finish interpreter
  have reachable : interpreter.finish.2.lexer.Reachable := ended ▸ .fresh
  have idle : interpreter.finish.2.lexer.IsIdle := ended ▸ .fresh
  have same : interpreter.finish.2.session.history =
      interpreter.session.history :=
    congrArg Session.history (keeps_finish interpreter).session
  have closed : ∀ ended : (Step × Front) × Interpreter,
      ClosesGroup interpreter.finish.2 front.pending ended →
      InStep entries (account.note (.finish, some ended.1.1)) ended.1.2
        ended.2 := by
    intro ended closes
    have stands := inStep.close same reachable idle closes
    rwa [inStep.pending] at stands
  rw [heldWith_finish]
  split
  · exact (closesGroup_runPending front _).mono closed
  · exact (closesGroup_failPending front _ _).mono closed

theorem take (inStep : InStep entries account front interpreter)
    (entry : Entry) :
    ((entry.take front).heldWith interpreter).Ensures fun ended =>
      InStep entries (account.note (entry, ended.1.1)) ended.1.2 ended.2 := by
  cases entry with
  | submit line =>
      rw [heldWith_take_submit]
      exact (inStep.submit line).bind fun _ stands => .ret stands
  | finish =>
      rw [heldWith_take_finish]
      exact inStep.finish.bind fun _ stands => .ret stands
  | discard => exact .ret ⟨rfl, .fresh, .refl .fresh, inStep.history⟩

theorem takeAll (inStep : InStep entries account front interpreter)
    (later : List Entry) :
    ((Entry.takeAll front later).heldWith interpreter).Ensures fun ended =>
      ended.1.1.length = later.length ∧
        InStep entries (account.noteAll (later.zip ended.1.1)) ended.1.2
          ended.2 := by
  induction later generalizing account front interpreter with
  | nil => exact .ret ⟨rfl, inStep⟩
  | cons entry rest induction =>
      rw [heldWith_takeAll_cons]
      refine (inStep.take entry).bind fun taken stands => ?_
      refine (induction stands).bind fun ended ⟨length, later⟩ => ?_
      exact .ret ⟨congrArg Nat.succ length, later⟩

end InStep

/-- After any entries the front, the lexer and the history are where the account
of the entries says: lines are pending exactly behind a line that asked for
more, the lexer cannot be told apart from a fresh one that has taken the pending
lines, and each group that was closed and is not blank has been noted once, in
order. -/
theorem takeAll_in_step_with_account (display : Display) (session : Session)
    (seconds : Nat) (entries : List Entry) :
    ((Entry.takeAll (.ofDisplay display) entries).heldWith
      (.ofSession session seconds)).Ensures fun ((steps, front), interpreter) =>
        steps.length = entries.length ∧
        front.pending = (Account.ofCalls (entries.zip steps)).openLines ∧
        (front.pending ≠ [] ↔
          ∃ line,
            (entries.zip steps).getLast? = some (.submit line, some .goOn)) ∧
        (∀ queries, interpreter.lexer.answers queries =
          (Lexer.fresh.fed front.pending).answers queries) ∧
        interpreter.session.history.entries = session.history.entries ++
          (Account.ofCalls (entries.zip steps)).closed.filterMap
            History.entryOf? := by
  have begun := inStep_begun display session seconds
  refine (begun.takeAll entries).mono ?_
  rintro ⟨⟨steps, front⟩, interpreter⟩ ⟨length, stands⟩
  refine ⟨length, stands.pending, ?_, fun queries => ?_, stands.history⟩
  · rw [stands.pending]
    exact Account.openLines_ofCalls_ne_nil_iff (entries.zip steps)
  · rw [stands.pending]
    exact stands.lexers.answers queries

end Front

end JobShell
