import JobShell.Execution.Stage
import JobShell.Proofs.System.Trace

/-!
# What builtins leave alone

A builtin works on descriptors, signals and processes that are there already.
It opens no file and no pipe, and makes no process: which calls a program makes
is known from its parts, whatever the replies are.
-/

namespace JobShell

namespace Interaction

variable {Op : Type} {Reply : Op → Type} {α β : Type}

/-- Whatever the replies are, only allowed questions are asked. -/
inductive Confined (allowed : Op → Prop) : Interaction Op Reply α → Prop where
  | ret (value : α) : Confined allowed (.ret value)
  | call {op : Op} {next : Reply op → Interaction Op Reply α}
      (isAllowed : allowed op) (goOn : ∀ reply, Confined allowed (next reply)) :
        Confined allowed (.call op next)

namespace Confined

variable {allowed : Op → Prop}

theorem bind {program : Interaction Op Reply α}
    {next : α → Interaction Op Reply β} (confined : program.Confined allowed)
    (goOn : ∀ value, (next value).Confined allowed) :
    (program >>= next).Confined allowed := by
  induction confined with
  | ret value => exact goOn value
  | call isAllowed _ induction => exact .call isAllowed induction

theorem ask {op : Op} (isAllowed : allowed op) :
    (Interaction.ask op : Interaction Op Reply (Reply op)).Confined allowed :=
  .call isAllowed .ret

theorem discard_ask {op : Op} (isAllowed : allowed op) :
    (discard (Interaction.ask op) : Interaction Op Reply PUnit).Confined
      allowed :=
  .call isAllowed fun _ => .ret PUnit.unit

/-- The calls of a run are among those that the program may make. -/
theorem allowed_of_goes {program : Interaction Op Reply α}
    (confined : program.Confined allowed)
    {exchanges : List ((op : Op) × Reply op)} {value : α}
    (goes : program.Goes exchanges value) :
    ∀ exchange ∈ exchanges, allowed exchange.1 := by
  induction confined generalizing exchanges with
  | ret result =>
      obtain ⟨rfl, _⟩ := goes
      exact List.forall_mem_nil _
  | call isAllowed _ induction =>
      obtain ⟨reply, rest, rfl, goes⟩ := goes
      intro exchange member
      rcases List.mem_cons.mp member with rfl | later
      · exact isAllowed
      · exact induction reply goes exchange later

end Confined

end Interaction

/-- The call opens no file and no pipe, and neither makes a process nor turns
one into another program. -/
def Call.MakesNothing : Call → Prop
  | openFile .. | appendText .. | openPipe | fork _ | execute .. => False
  | _ => True

namespace Activity

theorem confined_say (descriptor : Descriptor) (line : String) :
    (say descriptor line).Confined Call.MakesNothing :=
  .discard_ask trivial

theorem confined_closeAll (descriptors : List Descriptor) :
    (closeAll descriptors).Confined Call.MakesNothing := by
  induction descriptors with
  | nil => exact .ret ()
  | cons descriptor descriptors induction =>
      exact .call trivial fun _ => induction

theorem confined_hang {α : Type} :
    (hang : Activity α).Confined Call.MakesNothing :=
  .call trivial (by rintro ⟨⟩)

end Activity

namespace Shell

open Activity

variable {α β : Type} {allowed : Call → Prop}

/-- Whatever the session and the replies are, the action makes allowed calls
only. -/
def Confined (allowed : Call → Prop) (action : Shell α) : Prop :=
  ∀ session : Session,
    (action.run.run session : Activity (Except Failure α × Session)).Confined
      allowed

namespace Confined

theorem allowed_of_goes {action : Shell α} (confined : Confined allowed action)
    {before after : Session} {exchanges : List Exchange}
    {outcome : Except Failure α}
    (goes : action.Goes before exchanges outcome after) :
    ∀ exchange ∈ exchanges, allowed exchange.1 :=
  (confined before).allowed_of_goes goes

theorem pure (value : α) : Confined allowed (pure value : Shell α) :=
  fun _ => .ret _

theorem throw (failure : Failure) :
    Confined allowed (throw failure : Shell α) :=
  fun _ => .ret _

theorem ofOutcome (outcome : Except Failure α) :
    Confined allowed (ofOutcome outcome) := by
  cases outcome with
  | ok value => exact .pure value
  | error failure => exact .throw failure

theorem bind {action : Shell α} {next : α → Shell β}
    (confined : Confined allowed action)
    (goOn : ∀ value, Confined allowed (next value)) :
    Confined allowed (action >>= next) := by
  intro session
  apply (confined session).bind
  intro ⟨outcome, between⟩
  cases outcome with
  | ok value => exact goOn value between
  | error failure => exact .ret _

theorem lift {activity : Activity α} (confined : activity.Confined allowed) :
    Confined allowed (liftM activity : Shell α) := by
  intro session
  change ((activity >>= fun value => Pure.pure (value, session)) >>=
    fun result : α × Session => Pure.pure (Except.ok result.1,
      result.2)).Confined allowed
  rw [bind_assoc]
  exact confined.bind fun _ => .ret _

theorem ask {call : Call} (isAllowed : allowed call) :
    Confined allowed (liftM call.ask : Shell call.Reply) :=
  .lift (.ask isAllowed)

theorem attempt {action : Shell α} (confined : Confined allowed action) :
    Confined allowed (attempt action) :=
  fun session => (confined session).bind fun _ => .ret _

theorem discard {action : Shell α} (confined : Confined allowed action) :
    Confined allowed (Functor.discard action) := by
  rw [discard_eq_bind]
  exact confined.bind fun _ => .pure ()

theorem get_bind {next : Session → Shell α}
    (goOn : ∀ session, Confined allowed (next session)) :
    Confined allowed (get >>= next) :=
  fun session => goOn session session

theorem modify (change : Session → Session) :
    Confined allowed (modify change : Shell PUnit) :=
  fun _ => .ret _

theorem modifyJobs (change : JobTable → JobTable) :
    Confined allowed (modifyJobs change) :=
  modify _

theorem print (descriptor : Descriptor) (line : String) :
    Confined Call.MakesNothing (print descriptor line) := by
  refine .bind (.ask trivial) fun reply => ?_
  cases reply with
  | ok => exact .pure ()
  | error errno => exact .throw _

theorem forM {lines : List α} {action : α → Shell PUnit}
    (confined : ∀ line, Confined allowed (action line)) :
    Confined allowed (lines.forM action) := by
  induction lines with
  | nil => exact .pure PUnit.unit
  | cons line rest induction => exact (confined line).bind fun _ => induction

end Confined

theorem confined_job (command : String) (serial : Nat) :
    Confined Call.MakesNothing (job command serial) := by
  refine .get_bind fun session => ?_
  cases session.jobs.get? serial with
  | some job => exact .pure job
  | none => exact .throw _

theorem confined_poll (pids : List Pid) :
    (poll pids).Confined Call.MakesNothing := by
  induction pids with
  | nil => exact .ret []
  | cons pid rest induction =>
      exact .call trivial fun _ => induction.bind fun _ => .ret _

theorem confined_reap : Confined Call.MakesNothing reap := by
  refine .get_bind fun session => ?_
  refine .bind (.lift (confined_poll _)) fun answers => ?_
  exact .get_bind fun session => .bind (.modifyJobs _) fun _ => .pure _

theorem confined_awaitProcess (patience : Nat) (pid : Pid) :
    Confined Call.MakesNothing (awaitProcess patience pid) := by
  induction patience with
  | zero => exact .lift confined_hang
  | succ patience induction =>
      refine .bind (.ask trivial) fun answer => ?_
      refine .bind (.modifyJobs _) fun _ => ?_
      cases answer with
      | noChange => exact induction
      | other => exact induction
      | changed pid state =>
          cases state with
          | stopped signal => exact .pure true
          | running => exact induction
          | exited status => exact .pure false
          | killed signal => exact .pure false
      | failed errno =>
          dsimp only
          split
          · exact induction
          · split
            · exact .pure false
            · exact .throw _

theorem confined_awaitProcesses (pids : List Pid) :
    Confined Call.MakesNothing (awaitProcesses pids) := by
  induction pids with
  | nil => exact .pure ()
  | cons pid rest induction =>
      refine .bind (confined_awaitProcess patience pid) fun stopped => ?_
      split
      · exact .pure ()
      · exact induction

theorem confined_giveTerminal (group : Pid) :
    Confined Call.MakesNothing (giveTerminal group) := by
  refine .get_bind fun session => ?_
  split
  · exact .discard (.ask trivial)
  · exact .pure ()

theorem confined_settleForeground (serial : Nat) :
    Confined Call.MakesNothing (settleForeground serial) := by
  refine .get_bind fun session => ?_
  cases session.jobs.get? serial with
  | none => exact .pure _
  | some job =>
      dsimp only
      split
      · exact .bind (.modifyJobs _) fun _ => .pure _
      · exact .bind (.modifyJobs _) fun _ => .pure _

theorem confined_waitFor (serial : Nat) (resume : Bool) :
    Confined Call.MakesNothing (waitFor serial resume) := by
  have settle (waited : Except Failure Unit) : Confined Call.MakesNothing (do
      setForeground none
      reclaimTerminal
      ofOutcome waited
      settleForeground serial) := by
    refine .bind (.ask trivial) fun _ => ?_
    refine .bind (.get_bind fun _ => confined_giveTerminal _) fun _ => ?_
    exact .bind (.ofOutcome waited) fun _ => confined_settleForeground serial
  have await (session : Session) : Confined Call.MakesNothing (do
      let waited ← attempt (awaitProcesses
        (((session.jobs.get? serial).map Job.livePids).getD []))
      setForeground none
      reclaimTerminal
      ofOutcome waited
      settleForeground serial) :=
    .bind (.attempt (confined_awaitProcesses _)) settle
  refine .bind (confined_job "fg" serial) fun job => ?_
  refine .bind (.modifyJobs _) fun _ => ?_
  refine .bind (confined_giveTerminal job.group) fun _ => ?_
  refine .bind (.ask trivial) fun _ => ?_
  dsimp only
  split
  · exact .bind (.discard (.ask trivial)) fun _ => .get_bind await
  · exact .get_bind await

theorem confined_signalGroup (group : Pid) (signal : Signal) :
    Confined Call.MakesNothing (Shell.signalGroup group signal) := by
  refine .bind (.ask trivial) fun reply => ?_
  cases reply with
  | ok => exact .pure ()
  | error errno => exact .throw _

theorem confined_resumeBackground (serial : Nat) :
    Confined Call.MakesNothing (resumeBackground serial) := by
  refine .bind (confined_job "bg" serial) fun stopped => ?_
  refine .bind (confined_signalGroup stopped.group .cont) fun _ => ?_
  exact .bind (.modifyJobs _) fun _ => confined_job "bg" serial

theorem confined_signalJob (serial : Nat) (signal : Signal) :
    Confined Call.MakesNothing (signalJob serial signal) := by
  refine .bind (confined_job "kill" serial) fun job => ?_
  refine .bind (confined_signalGroup job.group signal) fun _ => ?_
  split
  · exact confined_signalGroup job.group .cont
  · exact .pure ()

theorem confined_changeDirectory (target : String) :
    Confined Call.MakesNothing (Shell.changeDirectory target) := by
  refine .bind (.ask trivial) fun world => ?_
  cases world.canonicalize target with
  | error error => exact .pure _
  | ok path =>
      dsimp only
      split
      · exact .pure _
      · refine .bind (.ask trivial) fun reply => ?_
        cases reply with
        | error error => exact .pure _
        | ok => exact .bind (.modify _) fun _ => .pure _

theorem confined_serialOf (command argument : String) :
    Confined Call.MakesNothing (serialOf command argument) := by
  unfold serialOf
  dsimp only
  split
  · exact .pure _
  · exact .throw _

end Shell

namespace Builtin

open Activity Shell

theorem confined_runPwd (out : Descriptor) :
    Confined Call.MakesNothing (runPwd out) := by
  refine .bind (.ask trivial) fun world => ?_
  cases world.currentDirectory with
  | ok directory => exact .bind (.print out directory) fun _ => .pure 0
  | error error => exact .throw _

theorem confined_cdTarget (argument : Option String) :
    Confined Call.MakesNothing (cdTarget argument) := by
  unfold cdTarget
  split
  · exact .get_bind fun _ => .pure _
  · refine .get_bind fun session => ?_
    cases session.directories.previous with
    | some previous => exact .pure _
    | none => exact .throw _
  · exact .bind (.ask trivial) fun _ => .pure _

theorem confined_runCd (argument : Option String) (out : Descriptor) :
    Confined Call.MakesNothing (runCd argument out) := by
  refine .bind (confined_cdTarget argument) fun (target, announced) => ?_
  refine .bind (confined_changeDirectory target) fun changed => ?_
  cases changed with
  | error error => exact .throw _
  | ok path =>
      dsimp only
      split
      · refine .bind (.ask trivial) fun world => ?_
        exact .bind (.print out _) fun _ => .pure 0
      · exact .pure 0

theorem confined_runHistory (out : Descriptor) :
    Confined Call.MakesNothing (runHistory out) := by
  refine .get_bind fun session => ?_
  exact .bind (.forM fun line => .print out line) fun _ => .pure 0

theorem confined_runQuit : Confined Call.MakesNothing runQuit := by
  refine .bind (.modify _) fun _ => ?_
  exact .get_bind fun _ => .pure _

theorem confined_runJobs (out : Descriptor) :
    Confined Call.MakesNothing (runJobs out) := by
  refine .bind confined_reap fun finished => ?_
  refine .bind (.forM fun job => .print out job.display) fun _ => ?_
  refine .get_bind fun session => ?_
  exact .bind (.forM fun job => .print out job.display) fun _ => .pure 0

theorem confined_runBg (argument : String) (out : Descriptor) :
    Confined Call.MakesNothing (runBg argument out) := by
  refine .bind (confined_serialOf "bg" argument) fun serial => ?_
  refine .bind (confined_resumeBackground serial) fun job => ?_
  exact .bind (.print out _) fun _ => .pure 0

theorem confined_runFg (argument : String) (out : Descriptor) :
    Confined Call.MakesNothing (runFg argument out) := by
  refine .bind (confined_serialOf "fg" argument) fun serial => ?_
  refine .bind (confined_job "fg" serial) fun job => ?_
  refine .bind (.print out job.command) fun _ => ?_
  refine .bind (confined_waitFor serial true) fun outcome => ?_
  cases outcome with
  | exited status => exact .pure status
  | stopped serial status =>
      refine .get_bind fun session => ?_
      cases session.jobs.get? serial with
      | some job => exact .bind (.print out _) fun _ => .pure status
      | none => exact .pure status

theorem confined_runKill (argument : String) :
    Confined Call.MakesNothing (runKill argument) := by
  refine .bind (confined_serialOf "kill" argument) fun serial => ?_
  exact .bind (confined_signalJob serial .term) fun _ => .pure 0

theorem confined_sleepOn (started interval slices : Nat) :
    (sleepOn started interval slices).Confined Call.MakesNothing := by
  induction slices with
  | zero => exact confined_hang
  | succ slices induction =>
      refine .bind (.ask trivial) fun now => ?_
      dsimp only
      split
      · exact .ret 0
      · refine .bind (.ask trivial) fun _ =>
          .bind (.ask trivial) fun interrupted => ?_
        cases interrupted with
        | true => exact .ret _
        | false => exact induction

theorem confined_runSleep (argument : String) :
    Confined Call.MakesNothing (runSleep argument) := by
  unfold runSleep
  cases Text.parseSeconds? argument with
  | none => exact .throw _
  | some interval =>
      refine .bind (.discard (.ask trivial)) fun _ => ?_
      exact .bind (.ask trivial) fun started =>
        .lift (confined_sleepOn started interval _)

theorem confined_run (builtin : Builtin) (arguments : List String)
    (out : Descriptor) :
    Confined Call.MakesNothing (builtin.run arguments out) := by
  cases builtin with
  | pwd => exact confined_runPwd out
  | cd => exact confined_runCd arguments.head? out
  | history => exact confined_runHistory out
  | quit => exact confined_runQuit
  | exit => exact confined_runQuit
  | jobs => exact confined_runJobs out
  | bg => exact confined_runBg (arguments.headD "") out
  | fg => exact confined_runFg (arguments.headD "") out
  | kill => exact confined_runKill (arguments.headD "")
  | echo => exact .bind (.print out _) fun _ => .pure 0
  | sleep => exact confined_runSleep (arguments.headD "")

theorem confined_dispatch (words : List String) (out : Descriptor) :
    Confined Call.MakesNothing (dispatch words out) := by
  unfold dispatch
  split
  · exact .pure _
  · split
    · exact .pure _
    · split
      · exact .throw _
      · exact .bind (confined_run _ _ out) fun _ => .pure _

end Builtin

/-- A stage that is a builtin opens nothing either. -/
theorem Stage.confined_runBuiltin (session : Session) (command : Command) :
    (Stage.runBuiltin session command).Confined Call.MakesNothing := by
  refine .bind
    (Builtin.confined_dispatch command.arguments .standardOutput session) ?_
  rintro ⟨outcome, _⟩
  cases outcome with
  | error failure => exact .bind (Activity.confined_say _ _) fun _ => .ret _
  | ok dispatched =>
      cases dispatched with
      | ran status => exact .ret status
      | notBuiltin => exact .ret 127

end JobShell
