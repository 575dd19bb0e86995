import JobShell.Proofs.Front.Agreement

/-!
# Groups of lines that come to nothing

Lines that go on, up to one that is no command, or up to the end of the input,
or up to where they are given up.  Such a group is noted in the history, unless
it is given up, and its failure is shown.  Nothing is run for it, and whatever
is entered later does the same as if the group had never been entered.
-/

namespace JobShell

namespace History

/-- The longer history has some more entries at one place. -/
structure Extends (added : List String) (history longer : History) : Prop where
  file : longer.file = history.file
  entries : ∃ front back, history.entries = front ++ back ∧
    longer.entries = front ++ added ++ back

theorem isKept_eq : IsKept Eq where
  file := fun same => same ▸ rfl
  append := fun same line => congrArg (·.append line) same

theorem allBlank_oneLine (line : String) :
    Text.allBlank (oneLine line) = Text.allBlank line := by
  unfold Text.allBlank oneLine
  rw [String.toList_ofList, List.all_map]
  congr 1
  funext c
  by_cases isBreak : c = '\n'
  · rw [isBreak]
    rfl
  · simp [isBreak]

variable {line : String}

theorem append_of_blank (blank : Text.allBlank line = true)
    (history : History) :
    history.append line =
      { history with cursor := history.entries.length } := by
  unfold append
  simp only [allBlank_oneLine, blank, if_true]

theorem append_of_text (notBlank : Text.allBlank line = false)
    (history : History) :
    history.append line =
      { history with
        entries := history.entries ++ [oneLine line]
        cursor := (history.entries ++ [oneLine line]).length } := by
  unfold append
  simp only [allBlank_oneLine, notBlank, Bool.false_eq_true, if_false]

theorem append_extends (notBlank : Text.allBlank line = false)
    (history : History) :
    Extends [oneLine line] history (history.append line) := by
  rw [append_of_text notBlank]
  exact ⟨rfl, history.entries, [], (List.append_nil _).symm,
    (List.append_nil _).symm⟩

theorem isKept_extends (added : List String) : IsKept (Extends added) where
  file := Extends.file
  append := by
    rintro history longer ⟨file, front, back, shape, longerShape⟩ line
    cases blank : Text.allBlank line with
    | true =>
        rw [append_of_blank blank, append_of_blank blank]
        exact ⟨file, front, back, shape, longerShape⟩
    | false =>
        rw [append_of_text blank, append_of_text blank]
        refine ⟨file, front, back ++ [oneLine line], ?_, ?_⟩
        · rw [shape, List.append_assoc]
        · rw [longerShape, List.append_assoc]

end History

/-- The lines that an entry adds to those that are pending. -/
def Entry.lines : Entry → List String
  | submit line => [line]
  | finish => []
  | discard => []

/-- The text that an entry completes behind these lines. -/
def Entry.textBehind (entry : Entry) (lines : List String) : String :=
  "\n".intercalate (lines ++ entry.lines)

namespace Interpreter

/-- The lines are read in turn, and each of them asks for one more. -/
inductive GoesOn : Interpreter → List String → Interpreter → Prop where
  | nil {interpreter : Interpreter} : GoesOn interpreter [] interpreter
  | cons {interpreter last : Interpreter} {line : String} {lines : List String}
      (more : (interpreter.parse line).1 = .ok .needsMore)
      (rest : GoesOn (interpreter.parse line).2 lines last) :
      GoesOn interpreter (line :: lines) last

/-- The lexer or the compiler finds a failure in what the entry completes. -/
inductive Rejects (interpreter : Interpreter) : Entry → Failure → Prop where
  | line {line : String} {failure : Failure}
      (failed : (interpreter.parse line).1 = .error failure) :
      Rejects interpreter (.submit line) failure
  | command {line : String} {failure : Failure}
      (ready : (interpreter.parse line).1 = .ok .ready)
      (failed : (interpreter.parse line).2.compile.1 = .error failure) :
      Rejects interpreter (.submit line) failure
  | ending {failure : Failure}
      (failed : interpreter.finish.1 = .error failure) :
      Rejects interpreter .finish failure
  | lastCommand {reading : Reading} {failure : Failure}
      (ready : interpreter.finish.1 = .ok reading)
      (failed : interpreter.finish.2.compile.1 = .error failure) :
      Rejects interpreter .finish failure

variable {interpreter last : Interpreter} {lines : List String}

/-- Reading has changed nothing but the lexer and what waits. -/
structure Keeps (interpreter after : Interpreter) : Prop where
  session : after.session = interpreter.session
  completion : after.completion = interpreter.completion

theorem keeps_parse (interpreter : Interpreter) (line : String) :
    interpreter.Keeps (interpreter.parse line).2 := by
  unfold parse
  split <;> exact ⟨rfl, rfl⟩

theorem keeps_finish (interpreter : Interpreter) :
    interpreter.Keeps interpreter.finish.2 := by
  unfold finish
  split <;> exact ⟨rfl, rfl⟩

theorem keeps_compile (interpreter : Interpreter) :
    interpreter.Keeps interpreter.compile.2 := by
  unfold compile
  split
  · exact ⟨rfl, rfl⟩
  · dsimp only
    split <;> exact ⟨rfl, rfl⟩

theorem Keeps.trans {middle after : Interpreter}
    (first : interpreter.Keeps middle)
    (second : middle.Keeps after) : interpreter.Keeps after :=
  ⟨second.session.trans first.session, second.completion.trans first.completion⟩

theorem GoesOn.keeps (goesOn : interpreter.GoesOn lines last) :
    interpreter.Keeps last := by
  induction goesOn with
  | nil => exact ⟨rfl, rfl⟩
  | cons more rest induction => exact (keeps_parse _ _).trans induction

theorem GoesOn.reachable (goesOn : interpreter.GoesOn lines last)
    (reachable : interpreter.lexer.Reachable) : last.lexer.Reachable := by
  induction goesOn with
  | nil => exact reachable
  | cons more rest induction =>
      apply induction
      rw [Front.lexer_parse]
      exact reachable.feed _

theorem Keeps.record {after : Interpreter} (keeps : interpreter.Keeps after)
    (line : String) :
    after.record line = interpreter.record line := by
  unfold Interpreter.record
  rw [keeps.session]

theorem Keeps.note {after : Interpreter} (keeps : interpreter.Keeps after)
    (line : String) :
    (interpreter.note line).Keeps (after.note line) where
  session := by rw [session_note, session_note, keeps.session]
  completion := by simp [keeps.completion]

theorem compile_note (interpreter : Interpreter) (line : String) :
    (interpreter.note line).compile.1 = interpreter.compile.1 := by
  unfold compile
  rw [tokens_note]
  cases interpreter.tokens with
  | none => rfl
  | some tokens =>
      dsimp only
      cases Sequence.compile tokens <;> rfl

theorem allBlank_of_intercalate {line : String}
    (blank : Text.allBlank ("\n".intercalate lines) = true)
    (member : line ∈ lines) :
    Text.allBlank line = true := by
  rw [Text.allBlank_iff] at blank ⊢
  intro c here
  rcases List.eq_nil_or_concat lines with rfl | ⟨front, last, rfl⟩
  · cases member
  · rw [List.concat_eq_append, Lexer.toList_intercalate_break] at blank
    rw [List.concat_eq_append, List.mem_append, List.mem_singleton] at member
    apply blank
    rcases member with earlier | rfl
    · apply List.mem_append_left
      exact List.mem_flatMap.mpr ⟨line, earlier, List.mem_append_left _ here⟩
    · exact List.mem_append_right _ here

theorem parse_blank {line : String} (idle : interpreter.lexer.IsIdle)
    (blank : Text.allBlank line = true) :
    (interpreter.parse line).1 = .ok .ready ∧
    (interpreter.parse line).2.tokens = some [] := by
  have shape : interpreter.lexer.feed line =
      (.ok (.complete []), (interpreter.lexer.feed line).2) :=
    Prod.ext (idle.feed_blank blank) rfl
  unfold parse
  rw [shape]
  exact ⟨rfl, rfl⟩

theorem compile_nothing (waiting : interpreter.tokens = some []) :
    interpreter.compile.1 = .ok () := by
  have compiled : Sequence.compile [] =
      .ok { commands := [], background := false } := rfl
  rw [compile_of_ok waiting compiled]

theorem not_rejects_blank {line : String} {failure : Failure}
    (idle : interpreter.lexer.IsIdle) (blank : Text.allBlank line = true) :
    ¬interpreter.Rejects (.submit line) failure := by
  obtain ⟨ready, waiting⟩ := parse_blank idle blank
  intro rejects
  cases rejects with
  | line failed =>
      rw [ready] at failed
      cases failed
  | command _ failed =>
      rw [compile_nothing waiting] at failed
      cases failed

theorem not_rejects_finish {failure : Failure}
    (idle : interpreter.lexer.IsIdle) :
    ¬interpreter.Rejects .finish failure := by
  have shape : interpreter.lexer.finish = (.ok [], .fresh) :=
    Prod.ext idle.finish rfl
  have finished : interpreter.finish =
      (.ok .ready,
        { interpreter with lexer := .fresh, tokens := some [] }) := by
    unfold finish
    rw [shape]
  intro rejects
  cases rejects with
  | ending failed =>
      rw [finished] at failed
      cases failed
  | lastCommand _ failed =>
      rw [finished, compile_nothing rfl] at failed
      cases failed

/-- A group with nothing in it is not rejected. -/
theorem GoesOn.notBlank {entry : Entry} {failure : Failure}
    (goesOn : interpreter.GoesOn lines last) (idle : interpreter.lexer.IsIdle)
    (rejects : last.Rejects entry failure) :
    Text.allBlank (entry.textBehind lines) = false := by
  rw [Bool.eq_false_iff]
  intro blank
  -- An idle lexer takes a blank line for a whole command without tokens: it
  -- asks for no more lines, and there is nothing to reject.
  cases goesOn with
  | nil =>
      cases entry with
      | submit line =>
          have first : Text.allBlank line = true :=
            allBlank_of_intercalate blank (by simp [Entry.lines])
          exact not_rejects_blank idle first rejects
      | finish => exact not_rejects_finish idle rejects
      | discard => cases rejects
  | @cons _ _ line lines more rest =>
      have first : Text.allBlank line = true :=
        allBlank_of_intercalate blank (by simp)
      rw [(parse_blank idle first).1] at more
      cases more

end Interpreter

namespace Front

open Activity Interpreter

variable {front : Front} {interpreter last : Interpreter} {lines : List String}

theorem heldWith_failPending_of_text
    (notBlank : Text.allBlank front.text = false) (failure : Failure)
    (interpreter : Interpreter) :
    (front.failPending failure).heldWith interpreter = (do
      interpreter.record front.text
      say .standardError (front.complaint failure)
      pure ((.prompt, { front with pending := [] }),
        interpreter.note front.text)) := by
  rw [heldWith_failPending, heldWith_closePending, appendHistory_eq]
  simp only [notBlank, Bool.false_eq_true, if_false, bind_assoc, pure_bind]

theorem heldWith_runPending_of_error {failure : Failure}
    (notBlank : Text.allBlank front.text = false)
    (failed : interpreter.compile.1 = .error failure) :
    front.runPending.heldWith interpreter = (do
      interpreter.record front.text
      say .standardError (front.complaint failure)
      pure ((nextStep (interpreter.note front.text).compile.2,
        { front with pending := [] }),
        (interpreter.note front.text).compile.2)) := by
  -- noting the text comes before compiling, which does not look at the session
  have still : (interpreter.note front.text).compile.1 = .error failure :=
    (compile_note interpreter front.text).trans failed
  rw [heldWith_runPending notBlank, appendHistory_eq]
  simp only [bind_assoc, pure_bind, heldWith_compileAndExecute, still,
    heldWith_conclude]

/-- The interpreter stands before a new command, with no more than the text
noted. -/
structure Noted (interpreter : Interpreter) (text : String)
    (after : Interpreter) : Prop where
  keeps : (interpreter.note text).Keeps after
  idle : after.lexer.IsIdle
  reachable : interpreter.lexer.Reachable → after.lexer.Reachable

theorem Noted.of_compile {middle : Interpreter} {text : String}
    (noted : Noted interpreter text middle) :
    Noted interpreter text middle.compile.2 where
  keeps := noted.keeps.trans (keeps_compile middle)
  idle := (lexer_compile middle).symm ▸ noted.idle
  reachable :=
    fun reachable => (lexer_compile middle).symm ▸ noted.reachable reachable

theorem noted_parse {line : String}
    (done : (interpreter.parse line).1 ≠ .ok .needsMore) (text : String) :
    Noted interpreter text ((interpreter.parse line).2.note text) where
  keeps := (keeps_parse interpreter line).note text
  idle := by
    rw [lexer_note]
    exact isIdle_of_parse done
  reachable := by
    intro reachable
    rw [lexer_note, lexer_parse]
    exact reachable.feed line

theorem noted_finish (interpreter : Interpreter) (text : String) :
    Noted interpreter text (interpreter.finish.2.note text) where
  keeps := (keeps_finish interpreter).note text
  idle := by
    rw [lexer_note, lexer_finish]
    exact .fresh
  reachable := by
    intro _
    rw [lexer_note, lexer_finish]
    exact .fresh

/-- All that is done is to note the text and to show the failure. -/
def OnlyNotes {α : Type} (front : Front) (interpreter : Interpreter)
    (text : String) (failure : Failure)
    (activity : Activity ((α × Front) × Interpreter)) : Prop :=
  ∃ result after,
    activity = (do
      interpreter.record text
      say .standardError (front.complaint failure)
      pure ((result, { front with pending := [] }), after)) ∧
    Noted interpreter text after

theorem onlyNotes_submit {line : String} {failure : Failure}
    (rejects : interpreter.Rejects (.submit line) failure)
    (notBlank : Text.allBlank ("\n".intercalate (front.pending ++ [line])) =
      false) :
    front.OnlyNotes interpreter
      ("\n".intercalate (front.pending ++ [line])) failure
      ((front.submit line).heldWith interpreter) := by
  have opened :
      Text.allBlank (text { front with pending := front.pending ++ [line] }) =
        false :=
    notBlank
  have recorded := (keeps_parse interpreter line).record
    (text { front with pending := front.pending ++ [line] })
  cases rejects with
  | line failed =>
      have done : (interpreter.parse line).1 ≠ .ok .needsMore := by
        rw [failed]; nofun
      have gaveUp :=
        heldWith_failPending_of_text opened failure (interpreter.parse line).2
      rw [recorded] at gaveUp
      rw [heldWith_submit, failed]
      exact ⟨_, _, gaveUp, noted_parse done _⟩
  | command ready failed =>
      have done : (interpreter.parse line).1 ≠ .ok .needsMore := by
        rw [ready]; nofun
      have ran := heldWith_runPending_of_error opened failed
      rw [recorded] at ran
      rw [heldWith_submit, ready]
      exact ⟨_, _, ran, (noted_parse done _).of_compile⟩

theorem onlyNotes_finish {failure : Failure}
    (rejects : interpreter.Rejects .finish failure)
    (notBlank : Text.allBlank front.text = false) :
    front.OnlyNotes interpreter front.text failure
      (front.finish.heldWith interpreter) := by
  have recorded := (keeps_finish interpreter).record front.text
  cases rejects with
  | ending failed =>
      have gaveUp :=
        heldWith_failPending_of_text notBlank failure interpreter.finish.2
      rw [recorded] at gaveUp
      rw [heldWith_finish, failed]
      exact ⟨_, _, gaveUp, noted_finish interpreter _⟩
  | lastCommand ready failed =>
      have ran := heldWith_runPending_of_error notBlank failed
      rw [recorded] at ran
      rw [heldWith_finish, ready]
      exact ⟨_, _, ran, (noted_finish interpreter _).of_compile⟩

theorem OnlyNotes.map {α β : Type} {text : String} {failure : Failure}
    {activity : Activity ((α × Front) × Interpreter)}
    (onlyNotes : front.OnlyNotes interpreter text failure activity)
    (change : α → β) :
    front.OnlyNotes interpreter text failure
      (activity >>= fun taken => pure ((change taken.1.1, taken.1.2),
        taken.2)) := by
  obtain ⟨result, after, does, noted⟩ := onlyNotes
  refine ⟨change result, after, ?_, noted⟩
  simp only [does, bind_assoc, pure_bind]

/-- The entry that completes a rejected command notes it and shows the
failure. -/
theorem onlyNotes_take {entry : Entry} {failure : Failure}
    (rejects : interpreter.Rejects entry failure)
    (notBlank : Text.allBlank (entry.textBehind front.pending) = false) :
    front.OnlyNotes interpreter (entry.textBehind front.pending) failure
      ((entry.take front).heldWith interpreter) := by
  cases entry with
  | submit line =>
      rw [heldWith_take_submit]
      exact (onlyNotes_submit rejects notBlank).map some
  | finish =>
      have whole : Entry.finish.textBehind front.pending = front.text :=
        congrArg "\n".intercalate (List.append_nil front.pending)
      rw [whole] at notBlank ⊢
      rw [heldWith_take_finish]
      exact (onlyNotes_finish rejects notBlank).map some
  | discard => cases rejects

/-- Lines that go on are pending, and nothing is done for them. -/
theorem heldWith_takeAll_of_goesOn (goesOn : interpreter.GoesOn lines last)
    (front : Front) (entry : Entry) :
    (Entry.takeAll front (lines.map .submit ++ [entry])).heldWith interpreter =
      (entry.take { front with pending := front.pending ++ lines }).heldWith
        last >>= fun taken =>
          pure ((lines.map (fun _ => some .goOn) ++ [taken.1.1], taken.1.2),
            taken.2) := by
  -- The lines read so far are pending in the front, which changes from step to
  -- step.
  induction goesOn generalizing front with
  | nil =>
      rw [List.map_nil, List.nil_append, heldWith_takeAll_cons, List.append_nil]
      rfl
  | @cons interpreter last line lines more rest induction =>
      rw [List.map_cons, List.cons_append, heldWith_takeAll_cons,
        heldWith_take_submit, heldWith_submit, more]
      dsimp only
      rw [Dialogue.heldWith_pure, pure_bind, pure_bind]
      dsimp only
      rw [induction, bind_assoc, List.append_assoc]
      rfl

theorem Noted.behind {text : String} {after : Interpreter}
    (noted : Noted last text after) (goesOn : interpreter.GoesOn lines last) :
    Noted interpreter text after where
  keeps := (goesOn.keeps.note text).trans noted.keeps
  idle := noted.idle
  reachable := fun reachable => noted.reachable (goesOn.reachable reachable)

theorem Noted.agrees {text : String} {after : Interpreter}
    (noted : Noted interpreter text after) (stands : front.Stands interpreter)
    (atPrompt : front.pending = []) (notBlank : Text.allBlank text = false) :
    interpreter.Agrees (History.Extends [History.oneLine text]) after where
  lexers := (stands.idle atPrompt).alike stands.reachable noted.idle
    (noted.reachable stands.reachable)
  sessions := by
    rw [noted.keeps.session, session_note]
    exact ⟨History.append_extends notBlank _, rfl⟩
  completions := noted.keeps.completion.trans (completion_note interpreter text)

theorem discard_agrees (stands : front.Stands interpreter)
    (atPrompt : front.pending = []) (goesOn : interpreter.GoesOn lines last) :
    interpreter.Agrees Eq last.discard where
  lexers := (stands.idle atPrompt).alike stands.reachable .fresh .fresh
  sessions := by
    have same : last.discard.session = interpreter.session :=
      goesOn.keeps.session
    rw [same]
    exact ⟨rfl, rfl⟩
  completions := goesOn.keeps.completion

theorem rejected_group {entry : Entry} {failure : Failure}
    (stands : front.Stands interpreter) (atPrompt : front.pending = [])
    (goesOn : interpreter.GoesOn lines last)
    (rejects : last.Rejects entry failure) :
    front.OnlyNotes interpreter (entry.textBehind lines) failure
      ((Entry.takeAll front (lines.map .submit ++ [entry])).heldWith
        interpreter) := by
  have notBlank : Text.allBlank (entry.textBehind lines) = false :=
    goesOn.notBlank (stands.idle atPrompt) rejects
  have opened : front.pending ++ lines = lines := by
    rw [atPrompt, List.nil_append]
  have taken :
      OnlyNotes { front with pending := lines } last
      (entry.textBehind lines) failure
      ((entry.take { front with pending := lines }).heldWith last) :=
    onlyNotes_take rejects notBlank
  obtain ⟨result, after, does, noted⟩ := taken
  refine ⟨lines.map (fun _ => some .goOn) ++ [result], after, ?_,
    noted.behind goesOn⟩
  rw [heldWith_takeAll_of_goesOn goesOn, opened, does, goesOn.keeps.record]
  simp only [bind_assoc, pure_bind]
  rfl

/-- Lines that go on and come to nothing leave no trace but in the history.
Where a command is rejected, its text is noted and the failure is shown; where
it is given up, nothing is done at all.  What is entered later runs in lockstep
with what it would have been without these lines, and so do the children that it
makes. -/
theorem group_leaves_no_trace (reached : front.Reached interpreter)
    (atPrompt : front.pending = []) (goesOn : interpreter.GoesOn lines last) :
    (∀ entry failure, last.Rejects entry failure → ∃ steps after,
      (Entry.takeAll front (lines.map .submit ++ [entry])).heldWith
        interpreter = (do
          interpreter.record (entry.textBehind lines)
          say .standardError (front.complaint failure)
          pure ((steps, front), after)) ∧
      after.session = interpreter.session.withHistory
        (interpreter.session.history.append (entry.textBehind lines)) ∧
      ∀ later,
        Lockstep (History.Extends [History.oneLine (entry.textBehind lines)])
        (AnswersAlike
          (History.Extends [History.oneLine (entry.textBehind lines)]))
        ((Entry.takeAll front later).heldWith interpreter)
        ((Entry.takeAll front later).heldWith after)) ∧
    (∃ steps after,
      (Entry.takeAll front (lines.map .submit ++ [.discard])).heldWith
        interpreter =
        pure ((steps, front), after) ∧
      after.session = interpreter.session ∧
      ∀ later,
        Lockstep Eq (AnswersAlike Eq)
        ((Entry.takeAll front later).heldWith interpreter)
        ((Entry.takeAll front later).heldWith after)) ∧
    ∀ related task twin, Task.Alike related task twin →
      Lockstep related Eq task.body twin.body := by
  have stands := reached.stands
  have closed : { front with pending := [] } = front := by rw [← atPrompt]
  refine ⟨?_, ?_, fun _ _ _ alike => alike.body_lockstep⟩
  · intro entry failure rejects
    have notBlank := goesOn.notBlank (stands.idle atPrompt) rejects
    obtain ⟨steps, after, does, noted⟩ :=
      rejected_group stands atPrompt goesOn rejects
    rw [closed] at does
    refine ⟨steps, after, does, ?_, fun later => ?_⟩
    · rw [noted.keeps.session, session_note]
      rfl
    · exact takeAll_lockstep (History.isKept_extends _)
        (noted.agrees stands atPrompt notBlank) front later
  · refine ⟨lines.map (fun _ => some .goOn) ++ [none], last.discard, ?_,
      goesOn.keeps.session, fun later => ?_⟩
    · rw [heldWith_takeAll_of_goesOn goesOn, ← closed]
      rfl
    · exact takeAll_lockstep History.isKept_eq
        (discard_agrees stands atPrompt goesOn) front later

def plainFront : Front :=
  ofDisplay { theme := .named "default", colours := false }

theorem group_leaves_no_trace_twoPipes :
    plainFront.Reached echoStart ∧ plainFront.pending = [] ∧
      ∃ last, echoStart.GoesOn ["echo 'a"] last ∧
        last.Rejects (.submit "b' | | c") (.line (.unexpected .pipe)) ∧
        ∃ steps after,
          (Entry.takeAll plainFront [.submit "echo 'a",
            .submit "b' | | c"]).heldWith echoStart = (do
              echoStart.record "echo 'a\nb' | | c"
              say .standardError
                (plainFront.complaint (.line (.unexpected .pipe)))
              pure ((steps, plainFront), after)) ∧
          after.session.history.entries = ["echo 'a b' | | c"] ∧
          ∀ later, Lockstep (History.Extends ["echo 'a b' | | c"])
            (AnswersAlike (History.Extends ["echo 'a b' | | c"]))
            ((Entry.takeAll plainFront later).heldWith echoStart)
            ((Entry.takeAll plainFront later).heldWith after) := by
  have reached : plainFront.Reached echoStart := ⟨_, _, _, [], [], rfl⟩
  have goesOn : echoStart.GoesOn ["echo 'a"] (echoStart.parse "echo 'a").2 :=
    .cons (by cbv) .nil
  have rejects : (echoStart.parse "echo 'a").2.Rejects (.submit "b' | | c")
      (.line (.unexpected .pipe)) := .line (by cbv)
  obtain ⟨rejected, _, _⟩ := group_leaves_no_trace reached rfl goesOn
  obtain ⟨steps, after, does, session, later⟩ := rejected _ _ rejects
  have text : Entry.textBehind (.submit "b' | | c") ["echo 'a"] =
      "echo 'a\nb' | | c" := by decide
  have entry : History.oneLine "echo 'a\nb' | | c" = "echo 'a b' | | c" := by
    decide
  have entries : (History.empty.append "echo 'a\nb' | | c").entries =
      ["echo 'a b' | | c"] := by
    decide
  rw [text] at does session later
  rw [entry] at later
  refine ⟨reached, rfl, _, goesOn, rejects, steps, after, does, ?_, later⟩
  rw [session]
  exact entries

end Front

end JobShell
