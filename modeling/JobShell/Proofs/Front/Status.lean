import Mathlib.Data.List.Permutation
import JobShell.CommandLine
import JobShell.Proofs.Execution.Undertaking
import JobShell.Proofs.Front.Traceless

/-!
# The status that a session keeps

Whatever a front asks of an interpreter, the status in the session is that of
the last undertaking, and this is the exit status of the shell.  A background
line leaves the status of its launch there, so the status is that of the last
pipeline in the foreground only as long as no background line has come after it,
or has left the same status.
-/

namespace JobShell

open Undertaking

namespace Interpreter

/-- The session has only just begun, with or without a relay for signals. -/
def IsNew (interpreter : Interpreter) : Prop :=
  ∃ group home history relay seconds,
    interpreter =
      ofSession { Session.fresh group home history with relay } seconds

theorem isNew_of_start {settings : Settings} {interpreter : Interpreter}
    (started : (start settings).MayYield interpreter) : interpreter.IsNew := by
  obtain ⟨group, relay, world, rfl⟩ := started
  exact ⟨_, _, _, _, _, rfl⟩

end Interpreter

namespace Shell

variable {before after : Session}

theorem lastStatus_of_syncJobs {outcome : Except Failure (List Job)}
    (ends : syncJobs.MayEnd before outcome after) :
    after.lastStatus = before.lastStatus := by
  have reaped : ∀ {outcome : Except Failure (List Job)},
      reap.MayEnd before outcome after →
      after.lastStatus = before.lastStatus := by
    intro outcome ends
    obtain ⟨_, _, _, rfl⟩ := mayEnd_reap.mp ends
    rfl
  unfold syncJobs at ends
  rw [mayEnd_get_bind] at ends
  split at ends
  · exact reaped ends
  · obtain ⟨event, _, ends⟩ := mayEnd_lift_bind.mp ends
    split at ends
    · exact reaped ends
    · rw [(mayEnd_pure.mp ends).2]

theorem lastStatus_of_endSession {outcome : Except Failure Unit}
    (ends : Interpreter.endSession.MayEnd before outcome after) :
    after.lastStatus = before.lastStatus := by
  unfold Interpreter.endSession at ends
  rcases mayEnd_bind.mp ends with ⟨_, _, told, goesOn⟩ | ⟨_, told, _⟩
  · obtain rfl := session_of_hangUpAll told
    rw [mayEnd_get_bind] at goesOn
    split at goesOn
    · obtain ⟨_, _, left⟩ := mayEnd_lift_bind.mp goesOn
      rw [(mayEnd_modify.mp left).2]
    · rw [(mayEnd_modify.mp goesOn).2]
  · rw [session_of_hangUpAll told]

end Shell

namespace Interpreter

variable {interpreter after : Interpreter}

/-- Nothing has been executed, and what waits to be executed has been
compiled. -/
structure StaysAt (interpreter after : Interpreter) : Prop where
  status : after.session.lastStatus = interpreter.session.lastStatus
  compiled : ∀ sequence, after.compiled = some sequence →
    interpreter.compiled = some sequence ∨
    ∃ tokens, Sequence.compile tokens = .ok sequence

theorem StaysAt.of_keeps (keeps : interpreter.Keeps after)
    (compiled : ∀ sequence, after.compiled = some sequence →
      interpreter.compiled = some sequence ∨
      ∃ tokens, Sequence.compile tokens = .ok sequence) :
    interpreter.StaysAt after where
  status := by rw [keeps.session]
  compiled := compiled

theorem StaysAt.of_inSession {α : Type} {action : Shell α}
    {outcome : Except Failure α}
    (ended : (interpreter.inSession action).MayYield (outcome, after))
    (keeps : ∀ {session}, action.MayEnd interpreter.session outcome session →
      session.lastStatus = interpreter.session.lastStatus) :
      interpreter.StaysAt after := by
  obtain ⟨session, ends, rfl⟩ := mayYield_inSession ended
  exact ⟨keeps ends, fun _ => .inl⟩

theorem mayYield_shutdown {status : Int}
    (ends : interpreter.shutdown.MayYield (status, after)) :
    status = interpreter.session.lastStatus ∧ interpreter.StaysAt after := by
  obtain ⟨⟨outcome, left⟩, ended, same⟩ := Interaction.mayYield_bind.mp ends
  cases same
  have stays := StaysAt.of_inSession ended Shell.lastStatus_of_endSession
  exact ⟨stays.status, stays⟩

theorem compiled_finish (interpreter : Interpreter) :
    interpreter.finish.2.compiled = interpreter.compiled := by
  unfold finish
  split <;> rfl

theorem compiled_parse (interpreter : Interpreter) (line : String) :
    (interpreter.parse line).2.compiled = none := by
  unfold parse
  split <;> rfl

theorem staysAt_compile (interpreter : Interpreter) :
    interpreter.StaysAt interpreter.compile.2 := by
  refine .of_keeps (keeps_compile interpreter) fun sequence compiled => ?_
  rcases ((Performs.compile interpreter).compiled sequence).mp compiled with
    ⟨_, tokens, _, read⟩ | ⟨_, waiting⟩
  · exact .inr ⟨tokens, read⟩
  · exact .inl waiting

theorem staysAt_modifyHistory (interpreter : Interpreter) (history : History) :
    interpreter.StaysAt (interpreter.modifyHistory history) :=
  ⟨rfl, fun _ => .inl⟩

theorem ensures_staysAt_appendHistory (interpreter : Interpreter)
    (line : String) :
    (interpreter.appendHistory line).Ensures interpreter.StaysAt := by
  rw [appendHistory_eq]
  exact .bind (.trivial _) fun _ _ => .ret (staysAt_modifyHistory interpreter _)

theorem staysAt_notifications {notices : List String}
    (told : interpreter.notifications.MayYield (notices, after)) :
    interpreter.StaysAt after := by
  unfold notifications at told
  obtain ⟨⟨outcome, left⟩, synced, same⟩ := Interaction.mayYield_bind.mp told
  have stays := StaysAt.of_inSession synced Shell.lastStatus_of_syncJobs
  cases outcome with
  | ok jobs =>
      cases same
      exact stays
  | error failure =>
      cases same
      exact stays

/-- Where nothing waits to be executed, no request changes the status. -/
theorem ensures_staysAt_answer {request : Request}
    (idle : request = .execute → interpreter.compiled = none) :
    (request.answer interpreter).Ensures fun answered =>
      interpreter.StaysAt answered.2 := by
  have same : interpreter.StaysAt interpreter := ⟨rfl, fun _ => .inl⟩
  cases request with
  | parse line =>
      refine .ret
        (.of_keeps (keeps_parse interpreter line) fun sequence compiled => ?_)
      rw [compiled_parse] at compiled
      cases compiled
  | finish =>
      refine .ret
        (.of_keeps (keeps_finish interpreter) fun sequence compiled => .inl ?_)
      rwa [compiled_finish] at compiled
  | discard => exact .ret ⟨rfl, nofun⟩
  | compile => exact .ret (staysAt_compile interpreter)
  | execute =>
      rw [Request.answer, execute, idle rfl]
      exact .ret same
  | appendHistory line =>
      exact (ensures_staysAt_appendHistory interpreter line).bind
        fun _ kept => .ret kept
  | shouldQuit => exact .ret same
  | notifications => exact .of_forall fun _ => staysAt_notifications
  | information => exact .bind (.trivial _) fun _ _ => .ret same
  | shutdown => exact .of_forall fun _ ended => (mayYield_shutdown ended).2
  | showPrompt text => exact .bind (.trivial _) fun _ _ => .ret same
  | tell line => exact .bind (.trivial _) fun _ _ => .ret same
  | complain line => exact .bind (.trivial _) fun _ _ => .ret same

theorem staysAt_of_answer {request : Request} {reply : request.Reply}
    (idle : request = .execute → interpreter.compiled = none)
    (answered : (request.answer interpreter).MayYield (reply, after)) :
    interpreter.StaysAt after := by
  have stays := (ensures_staysAt_answer idle).of_mayYield answered
  exact stays

end Interpreter

/-- A request is met, and these are the undertakings for it. -/
inductive Request.Meets (interpreter : Interpreter) :
    (request : Request) → request.Reply → List (Undertaking × Int) →
    Interpreter → Prop where
  | executes {sequence : Sequence} {session : Session}
      {log : List (Undertaking × Int)}
      (waiting : interpreter.compiled = some sequence)
      (executes : sequence.Executes interpreter.session log session) :
      Meets interpreter .execute
        (.ok (statusBehind interpreter.session.lastStatus log)) log
        { interpreter with compiled := none, session }
  | answers {request : Request} {reply : request.Reply} {after : Interpreter}
      (idle : request = .execute → interpreter.compiled = none)
      (answered : (request.answer interpreter).MayYield (reply, after)) :
      Meets interpreter request reply [] after

/-- The dialogue is held with an interpreter, and these are the undertakings on
the way. -/
def Dialogue.Holds {α : Type} :
    Dialogue α → Interpreter → List (Undertaking × Int) → α →
    Interpreter → Prop
  | .ret value, interpreter, log, result, after =>
    log = [] ∧ result = value ∧ after = interpreter
  | .call request next, interpreter, log, result, after =>
    ∃ reply middle here later, request.Meets interpreter reply here middle ∧
      Holds (next reply) middle later result after ∧ log = here ++ later

namespace Request

variable {interpreter after : Interpreter} {request : Request}
  {reply : request.Reply} {log : List (Undertaking × Int)}

/-- Every way to meet a request is a way to undertake something for it, or
nothing. -/
theorem mayYield_answer_iff :
    (request.answer interpreter).MayYield (reply, after) ↔
      ∃ log, request.Meets interpreter reply log after := by
  constructor
  · intro answered
    by_cases executing : request = .execute
    · subst executing
      cases waiting : interpreter.compiled with
      | none => exact ⟨[], .answers (fun _ => waiting) answered⟩
      | some sequence =>
          rw [answer, Interpreter.execute, waiting] at answered
          obtain ⟨session, ends, rfl⟩ := Interpreter.mayYield_inSession answered
          obtain ⟨log, rfl, executes⟩ := Shell.mayEnd_execute_iff.mp ends
          exact ⟨log, .executes waiting executes⟩
    · exact ⟨[], .answers (fun same => absurd same executing) answered⟩
  · rintro ⟨log, meets⟩
    cases meets with
    | executes waiting executes =>
        rw [answer, Interpreter.execute, waiting]
        exact Interaction.mayYield_bind.mpr
          ⟨_, Shell.mayEnd_execute_iff.mpr ⟨_, rfl, executes⟩, rfl⟩
    | answers _ answered => exact answered

theorem Meets.lastStatus_eq
    (meets : request.Meets interpreter reply log after) :
    after.session.lastStatus =
      statusBehind interpreter.session.lastStatus log := by
  cases meets with
  | executes _ executes => exact executes.follow.lastStatus_eq
  | answers idle answered =>
      exact (Interpreter.staysAt_of_answer idle answered).status

end Request

namespace Dialogue

variable {α β : Type} {start after : Interpreter}
  {log : List (Undertaking × Int)} {value : α}

/-- Every way to hold a dialogue has undertakings on its way. -/
theorem mayYield_heldWith_iff {dialogue : Dialogue α} :
    (dialogue.heldWith start).MayYield (value, after) ↔
      ∃ log, dialogue.Holds start log value after := by
  induction dialogue generalizing start with
  | ret result =>
      constructor
      · intro held
        cases held
        exact ⟨[], rfl, rfl, rfl⟩
      · rintro ⟨_, _, rfl, rfl⟩
        exact rfl
  | call request next induction =>
      change (request.answer start >>= fun answered =>
        heldWith (next answered.1) answered.2).MayYield (value, after) ↔ _
      simp only [Interaction.mayYield_bind, induction, Prod.exists,
        Request.mayYield_answer_iff]
      constructor
      · rintro ⟨reply, middle, ⟨here, meets⟩, later, holds⟩
        exact ⟨here ++ later, reply, middle, here, later, meets, holds, rfl⟩
      · rintro ⟨_, reply, middle, here, later, meets, holds, _⟩
        exact ⟨reply, middle, ⟨here, meets⟩, later, holds⟩

/-- The parts of a dialogue have parts of the undertakings. -/
theorem holds_bind {dialogue : Dialogue α} {next : α → Dialogue β}
    {result : β} :
    (dialogue >>= next).Holds start log result after ↔
      ∃ first second value middle, log = first ++ second ∧
        dialogue.Holds start first value middle ∧
        (next value).Holds middle second result after := by
  induction dialogue generalizing start log with
  | ret value =>
      constructor
      · intro holds
        exact ⟨[], log, value, start, rfl, ⟨rfl, rfl, rfl⟩, holds⟩
      · rintro ⟨_, second, _, _, rfl, ⟨rfl, rfl, rfl⟩, holds⟩
        exact holds
  | call request goOn induction =>
      constructor
      · rintro ⟨reply, between, here, later, meets, holds, rfl⟩
        obtain ⟨first, second, value, middle, rfl, holds, goesOn⟩ :=
          (induction reply).mp holds
        refine ⟨here ++ first, second, value, middle,
          (List.append_assoc ..).symm, ?_, goesOn⟩
        exact ⟨reply, between, here, first, meets, holds, rfl⟩
      · rintro ⟨_, second, value, middle, rfl,
          ⟨reply, between, here, first, meets, holds, rfl⟩, goesOn⟩
        refine ⟨reply, between, here, first ++ second, meets, ?_,
          List.append_assoc ..⟩
        exact (induction reply).mpr ⟨first, second, value, middle, rfl,
          holds, goesOn⟩

theorem holds_ask {request : Request} {reply : request.Reply} :
    request.ask.Holds start log reply after ↔
      request.Meets start reply log after := by
  constructor
  · rintro ⟨_, _, here, _, meets, ⟨rfl, rfl, rfl⟩, rfl⟩
    rwa [List.append_nil]
  · intro meets
    exact ⟨reply, after, log, [], meets, ⟨rfl, rfl, rfl⟩,
      (List.append_nil log).symm⟩

/-- The last undertaking decides what status stands in the session. -/
theorem Holds.lastStatus_eq {dialogue : Dialogue α}
    (holds : dialogue.Holds start log value after) :
    after.session.lastStatus = statusBehind start.session.lastStatus log := by
  induction dialogue generalizing start log with
  | ret result =>
      obtain ⟨rfl, _, rfl⟩ := holds
      rfl
  | call request next induction =>
      obtain ⟨reply, middle, here, later, meets, holds, rfl⟩ := holds
      simp [induction reply holds, meets.lastStatus_eq]

/-- What is sent to the background has been compiled, and leaves the status of
its launch. -/
theorem Holds.background {dialogue : Dialogue α}
    (compiled : ∀ sequence, start.compiled = some sequence →
      ∃ tokens, Sequence.compile tokens = .ok sequence)
    (holds : dialogue.Holds start log value after) {sequence : Sequence}
    {status : Int} (member : (.background sequence, status) ∈ log) :
    sequence.background = true ∧ ∃ tokens before left,
      Sequence.compile tokens = .ok sequence ∧
      (Undertaking.background sequence).Leaves before status left := by
  induction dialogue generalizing start log with
  | ret result =>
      obtain ⟨rfl, _⟩ := holds
      cases member
  | call request next induction =>
      obtain ⟨reply, middle, here, later, meets, holds, rfl⟩ := holds
      cases meets with
      | @executes waiting session _ isWaiting executes =>
          rcases List.mem_append.mp member with now | behind
          · obtain ⟨tokens, read⟩ := compiled _ isWaiting
            cases executes with
            | foreground _ _ same _ =>
                have listed := List.mem_map_of_mem (f := Prod.fst) now
                rw [same] at listed
                obtain ⟨_, _, impossible⟩ := List.mem_map.mp listed
                cases impossible
            | background sent _ leaves =>
                cases List.mem_singleton.mp now
                exact ⟨sent, tokens, _, _, read, leaves⟩
            | nothing => cases now
          · -- behind an execution nothing is left to be executed
            exact induction _ (fun _ waiting => by cases waiting) holds behind
      | answers idle answered =>
          refine induction reply (fun sequence waiting => ?_) holds member
          rcases (Interpreter.staysAt_of_answer idle answered).compiled
            sequence waiting with earlier | read
          · exact compiled sequence earlier
          · exact read

end Dialogue

def Undertaking.isForeground : Undertaking → Bool
  | foreground _ => true
  | background _ => false

/-- The status of the last pipeline in the foreground, and 0 if there is
none. -/
def Undertaking.foregroundStatus (log : List (Undertaking × Int)) : Int :=
  statusBehind 0 (log.filter fun entry => entry.1.isForeground)

/-- The last status is that of the last pipeline in the foreground unless
something else has been left behind it. -/
theorem Undertaking.statusBehind_eq_foregroundStatus_iff
    (log : List (Undertaking × Int)) :
    statusBehind 0 log = foregroundStatus log ↔
      ∀ sequence status, log.getLast? = some (.background sequence, status) →
        status = foregroundStatus log := by
  rcases List.eq_nil_or_concat log with rfl |
    ⟨front, ⟨undertaking, status⟩, rfl⟩
  · exact ⟨fun _ _ _ => nofun, fun _ => rfl⟩
  · have here : statusBehind 0 (front ++ [(undertaking, status)]) = status :=
      statusBehind_append 0 front _
    rw [List.concat_eq_append, here, List.getLast?_concat]
    cases undertaking with
    | foreground pipeline =>
        have last :
            foregroundStatus (front ++ [(.foreground pipeline, status)]) =
              status := by
          rw [foregroundStatus, List.filter_append, statusBehind_append]
          rfl
        rw [last]
        exact ⟨fun _ _ _ => nofun, fun _ => rfl⟩
    | background sequence =>
        constructor
        · intro same _ _ last
          cases last
          exact same
        · intro same
          exact same sequence status rfl

namespace Front

/-- A conversation gives the status that its last undertaking has left. -/
theorem session_status {front : Front} {prompts : Bool} {lines : List String}
    {start after : Interpreter} {status : Int}
    (fresh : start.session.lastStatus = 0)
    (held : ((front.session prompts lines).heldWith start).MayYield
      (status, after)) :
    ∃ log, (front.session prompts lines).Holds start log status after ∧
      status = statusBehind 0 log := by
  obtain ⟨log, holds⟩ := Dialogue.mayYield_heldWith_iff.mp held
  refine ⟨log, holds, ?_⟩
  obtain ⟨first, rest, _, greeted, rfl, greets, goesOn⟩ :=
    Dialogue.holds_bind.mp holds
  obtain ⟨second, last, _, talked, rfl, talks, ends⟩ :=
    Dialogue.holds_bind.mp goesOn
  cases Dialogue.holds_ask.mp ends with
  | answers _ answered =>
      simp [(Interpreter.mayYield_shutdown answered).1, talks.lastStatus_eq,
        greets.lastStatus_eq, fresh]

end Front

/-- The exit status of the whole program is what the last undertaking has
left. -/
theorem CommandLine.converse_status {settings : Settings}
    {environment : Environment} {lines : List String} {status : Int}
    (ended : (converse settings environment lines).MayYield status) :
    ∃ front prompts start log after,
      (Interpreter.start settings).MayYield start ∧
      (Front.session front prompts lines).Holds start log status after ∧
      status = statusBehind 0 log := by
  obtain ⟨start, started, held⟩ := Interaction.mayYield_bind.mp ended
  obtain ⟨⟨_, after⟩, held, rfl⟩ := Interaction.mayYield_bind.mp held
  obtain ⟨_, _, _, _, _, rfl⟩ := Interpreter.isNew_of_start started
  obtain ⟨log, holds, same⟩ := Front.session_status rfl held
  exact ⟨_, _, _, log, after, started, holds, same⟩

namespace Dialogue

variable {α : Type} {start : Interpreter}

/-- The status in a session is that of the last undertaking, of whatever kind,
and shutting down gives it.  It is the status of the last pipeline in the
foreground unless a background line behind that has left another one: 0 with a
new job, or the status of the failure to launch it. -/
theorem last_undertaking_leaves_status (new : start.IsNew)
    (dialogue : Dialogue α) :
    (∀ value after, (dialogue.heldWith start).MayYield (value, after) ↔
      ∃ log, dialogue.Holds start log value after) ∧
    ∀ log value after, dialogue.Holds start log value after →
      after.session.lastStatus = statusBehind 0 log ∧
      (∀ status later, after.shutdown.MayYield (status, later) →
        status = statusBehind 0 log) ∧
      (after.session.lastStatus = foregroundStatus log ↔
        ∀ sequence status, log.getLast? = some (.background sequence, status) →
          status = foregroundStatus log) ∧
      ∀ sequence status, (.background sequence, status) ∈ log →
        ∃ before left,
          (Undertaking.background sequence).Leaves before status left ∧
          ((status = 0 ∧ ∃ launched, Shell.AddsJob before launched ∧
              left = { launched with lastStatus := 0 }) ∨
            (0 < status ∧ left = { before with lastStatus := status })) := by
  obtain ⟨group, home, history, relay, seconds, rfl⟩ := new
  refine ⟨fun _ _ => mayYield_heldWith_iff, fun log value after holds => ?_⟩
  have kept : after.session.lastStatus = statusBehind 0 log :=
    holds.lastStatus_eq
  refine ⟨kept, ?_, ?_, ?_⟩
  · intro status later ended
    rw [(Interpreter.mayYield_shutdown ended).1, kept]
  · rw [kept, statusBehind_eq_foregroundStatus_iff]
  · intro sequence status member
    obtain ⟨sent, tokens, before, left, compiled, leaves⟩ :=
      holds.background (fun _ waiting => by cases waiting) member
    exact ⟨before, left, leaves, leaves.background compiled sent⟩

section Overwritten

def untouched : Interpreter := .ofSession (.fresh 1 "/" .empty) 30

/-- The command of `cd a b`. -/
def crowdedChange : Command :=
  { arguments := ["cd", "a", "b"], redirections := [], builtin := true }

/-- The command of `sleep 5 &`. -/
def sentSleep : Command := { arguments := ["sleep", "5"], redirections := [],
                             builtin := false }

def crowdedLine : Sequence :=
  { commands := [(crowdedChange, .none)], background := false }

def sentLine : Sequence :=
  { commands := [(sentSleep, .none)], background := true }

def failedSession : Session := { untouched.session with lastStatus := 2 }

def sentSession : Session :=
  { untouched.session with jobs := (JobTable.empty.add 7 [7] "sleep 5" true).2 }

def failThenSendLog : List (Undertaking × Int) :=
  [(.foreground ⟨.none, [crowdedChange]⟩, 2), (.background sentLine, 0)]

theorem executes_crowdedLine :
    crowdedLine.Executes untouched.session
      [(.foreground ⟨.none, [crowdedChange]⟩, 2)]
      failedSession := by
  have leaves :
      (Undertaking.foreground ⟨.none, [crowdedChange]⟩).Leaves
      untouched.session 2
      failedSession :=
    ⟨.error (.arity "cd" (.max 2) 3), untouched.session, rfl, rfl, rfl⟩
  exact .foreground rfl (.first leaves (.finished rfl)) rfl
    (.cons leaves (.nil _))

theorem executes_sentLine :
    sentLine.Executes failedSession
      [(.background sentLine, 0)] sentSession := by
  have launches :
      (Undertaking.background sentLine).action.MayEnd failedSession (.ok 0)
      { sentSession with lastStatus := 2 } :=
    ⟨.ok 7, .ok (), .ok (), rfl⟩
  exact .background rfl (List.cons_ne_nil _ _) ⟨_, _, launches, rfl, rfl⟩

/-- A line that is a whole command is executed. -/
def submitLine (line : String) : Dialogue (Except Failure Int) := do
  let _ ← parse line
  Front.compileAndExecute

theorem holds_submitLine {line : String} {tokens : List Token}
    {sequence : Sequence} {start : Interpreter} {session : Session}
    {log : List (Undertaking × Int)}
    (read : start.lexer.feed line = (.ok (.complete tokens), start.lexer))
    (compiled : Sequence.compile tokens = .ok sequence)
    (executes : sequence.Executes start.session log session) :
    (submitLine line).Holds start log
      (.ok (statusBehind start.session.lastStatus log))
      { start with tokens := none, compiled := none, session } := by
  have parsed : start.parse line =
      (.ok .ready, { start with compiled := none, tokens := some tokens }) := by
    rw [Interpreter.parse, read]
  refine ⟨.ok .ready, _, [], log,
    .answers (fun other => by cases other) parsed.symm, ?_, rfl⟩
  have made : { start with compiled := none, tokens := some tokens }.compile =
      (.ok (), { start with compiled := some sequence, tokens := none }) :=
    Interpreter.compile_of_ok rfl compiled
  refine ⟨.ok (), _, [], log,
    .answers (fun other => by cases other) made.symm, ?_, rfl⟩
  exact ⟨_, _, log, [], .executes rfl executes, ⟨rfl, rfl, rfl⟩,
    (List.append_nil log).symm⟩

/-- A command that fails, and then one that is sent to the background. -/
def failThenSend : Dialogue (Except Failure Int) := do
  let _ ← submitLine "cd a b"
  submitLine "sleep 5 &"

theorem holds_failThenSend :
    failThenSend.Holds untouched failThenSendLog (.ok 0)
      { untouched with session := sentSession } := by
  have first : (submitLine "cd a b").Holds untouched _ _ _ :=
    holds_submitLine (by cbv) rfl executes_crowdedLine
  have second :
      (submitLine "sleep 5 &").Holds
        { untouched with session := failedSession } _ _ _ :=
    holds_submitLine (by cbv) rfl executes_sentLine
  exact holds_bind.mpr ⟨_, _, _, _, rfl, first, second⟩

theorem last_undertaking_leaves_status_failThenSend :
    ∃ after, untouched.IsNew ∧
      failThenSend.Holds untouched failThenSendLog (.ok 0) after ∧
      after.session.lastStatus = statusBehind 0 failThenSendLog ∧
      after.session.lastStatus = 0 ∧ foregroundStatus failThenSendLog = 2 := by
  have new : untouched.IsNew := ⟨1, "/", .empty, none, 30, rfl⟩
  obtain ⟨kept, _⟩ :=
    (last_undertaking_leaves_status new failThenSend).2 _ _ _ holds_failThenSend
  exact ⟨_, new, holds_failThenSend, kept, rfl, rfl⟩

/-- A line in the background overwrites the status of the last pipeline in the
foreground. -/
theorem not_lastStatus_eq_foregroundStatus :
    ¬∀ (start : Interpreter), start.IsNew →
      ∀ (dialogue : Dialogue (Except Failure Int)) log value
      after, dialogue.Holds start log value after →
        after.session.lastStatus = foregroundStatus log := by
  intro always
  have same :=
    always untouched ⟨1, "/", .empty, none, 30, rfl⟩ _ _ _ _ holds_failThenSend
  exact absurd same (by decide)

end Overwritten

end Dialogue

end JobShell
