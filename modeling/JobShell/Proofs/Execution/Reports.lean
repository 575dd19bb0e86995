import JobShell.Execution.Stage
import JobShell.Proofs.Job.Listing
import JobShell.Proofs.System.Lockstep

/-!
# What builtins make of the answers to a wait

A builtin counts a process as finished only when an answer says so, and it
believes every such answer.  In the shell the answers are those to a parent.  In
a stage of a pipeline the jobs of the shell are no children of the one who asks.
-/

namespace JobShell

namespace Interaction

variable {Op : Type} {Reply : Op → Type} {α β : Type}

/-- Whatever the replies are, as long as they are allowed, the value has this
property. -/
inductive EnsuresGiven (allowed : (op : Op) → Reply op → Prop)
    (post : α → Prop) : Interaction Op Reply α → Prop where
  | ret {value : α} (holds : post value) :
      EnsuresGiven allowed post (.ret value)
  | call {op : Op} {next : Reply op → Interaction Op Reply α}
      (goOn : ∀ reply, allowed op reply →
        EnsuresGiven allowed post (next reply)) :
      EnsuresGiven allowed post (.call op next)

namespace EnsuresGiven

variable {allowed : (op : Op) → Reply op → Prop}

theorem trivial (program : Interaction Op Reply α) :
    program.EnsuresGiven allowed fun _ => True := by
  induction program with
  | ret value => exact .ret True.intro
  | call op next induction => exact .call fun reply _ => induction reply

theorem bind {program : Interaction Op Reply α}
    {next : α → Interaction Op Reply β} {middle : α → Prop} {post : β → Prop}
    (first : program.EnsuresGiven allowed middle)
    (goOn : ∀ value, middle value → (next value).EnsuresGiven allowed post) :
    (program >>= next).EnsuresGiven allowed post := by
  induction first with
  | ret holds => exact goOn _ holds
  | call _ induction => exact .call induction

theorem mono {program : Interaction Op Reply α} {post weaker : α → Prop}
    (ensures : program.EnsuresGiven allowed post)
    (weaken : ∀ value, post value → weaker value) :
    program.EnsuresGiven allowed weaker := by
  induction ensures with
  | ret holds => exact .ret (weaken _ holds)
  | call _ induction => exact .call induction

end EnsuresGiven

end Interaction

/-- Replies that do not pass a process off as finished which has not ended. -/
def Call.Excused (ended : Pid → Prop) : (call : Call) → call.Reply → Prop
  | .wait pid _, answer => JobTable.Excused ended pid answer
  | _, _ => True

namespace Shell

open Activity

variable {ended : Pid → Prop} {α β : Type}

/-- Whatever the other replies are, the action counts nobody as finished who has
not ended. -/
def Spares (ended : Pid → Prop) (action : Shell α) : Prop :=
  ∀ session : Session,
    (action.run.run session : Activity
      (Except Failure α × Session)).EnsuresGiven
    (Call.Excused ended) fun result => session.jobs.Spares ended result.2.jobs

namespace Spares

theorem pure (value : α) : Spares ended (pure value : Shell α) :=
  fun _ => .ret (.refl _)

theorem throw (failure : Failure) : Spares ended (throw failure : Shell α) :=
  fun _ => .ret (.refl _)

theorem ofOutcome (outcome : Except Failure α) :
    Spares ended (ofOutcome outcome) := by
  cases outcome with
  | ok value => exact .pure value
  | error failure => exact .throw failure

theorem bind {action : Shell α} {next : α → Shell β}
    (spares : Spares ended action) (goOn : ∀ value, Spares ended (next value)) :
    Spares ended (action >>= next) := by
  intro session
  apply (spares session).bind
  intro ⟨outcome, between⟩ first
  cases outcome with
  | error failure => exact .ret first
  | ok value =>
      exact (goOn value between).mono fun _ second => first.trans second

theorem lift (activity : Activity α) :
    Spares ended (liftM activity : Shell α) := by
  intro session
  change ((activity >>= fun value => Pure.pure (value, session)) >>=
    fun result : α × Session => Pure.pure (Except.ok result.1,
      result.2)).EnsuresGiven _ _
  rw [bind_assoc]
  exact (Interaction.EnsuresGiven.trivial activity).bind fun _ _ =>
    .ret (.refl _)

theorem attempt {action : Shell α} (spares : Spares ended action) :
    Spares ended (attempt action) :=
  fun session => (spares session).bind fun _ after => .ret after

theorem discard {action : Shell α} (spares : Spares ended action) :
    Spares ended (Functor.discard action) := by
  rw [discard_eq_bind]
  exact spares.bind fun _ => .pure ()

/-- What comes next may rely on the session that was got. -/
theorem get_bind_at {next : Session → Shell α} {session : Session}
    (ensures : ((next session).run.run session :
      Activity (Except Failure α × Session)).EnsuresGiven (Call.Excused ended)
        fun result => session.jobs.Spares ended result.2.jobs) :
    ((get >>= next : Shell α).run.run session :
      Activity (Except Failure α × Session)).EnsuresGiven (Call.Excused ended)
        fun result => session.jobs.Spares ended result.2.jobs :=
  ensures

theorem get_bind {next : Session → Shell α}
    (spares : ∀ session, Spares ended (next session)) :
    Spares ended (get >>= next) :=
  fun session => get_bind_at (spares session session)

theorem modify {change : Session → Session}
    (keeps : ∀ session, (change session).jobs = session.jobs) :
    Spares ended (modify change : Shell PUnit) :=
  fun session => .ret (keeps session ▸ .refl _)

theorem modifyJobs {change : JobTable → JobTable}
    (spares : ∀ table : JobTable, table.Spares ended (change table)) :
    Spares ended (modifyJobs change) :=
  fun session => .ret (spares session.jobs)

theorem print (descriptor : Descriptor) (line : String) :
    Spares ended (print descriptor line) := by
  apply bind (.lift _)
  intro reply
  cases reply with
  | ok => exact .pure ()
  | error errno => exact .throw _

theorem forM {lines : List α} {action : α → Shell PUnit}
    (spares : ∀ line, Spares ended (action line)) :
    Spares ended (lines.forM action) := by
  induction lines with
  | nil => exact .pure PUnit.unit
  | cons line rest induction => exact (spares line).bind fun _ => induction

/-- What comes next may rely on the answer. -/
theorem wait_bind {pid : Pid} {mode : WaitMode} {next : WaitAnswer → Shell α}
    (spares : ∀ answer, JobTable.Excused ended pid answer →
      Spares ended (next answer)) :
    Spares ended (liftM (Activity.wait pid mode) >>= next) :=
  fun session => .call fun answer excused => spares answer excused session

end Spares

theorem spares_job (command : String)
    (serial : Nat) : Spares ended (job command serial) := by
  apply Spares.get_bind
  intro session
  cases session.jobs.get? serial with
  | some job => exact .pure job
  | none => exact .throw _

theorem ensuresGiven_poll (pids : List Pid) :
    (poll pids).EnsuresGiven (Call.Excused ended)
      fun answers => ∀ entry ∈ answers,
        JobTable.Excused ended entry.1 entry.2 := by
  induction pids with
  | nil => exact .ret nofun
  | cons pid rest induction =>
      apply Interaction.EnsuresGiven.call
      intro answer excused
      apply induction.bind
      intro others later
      apply Interaction.EnsuresGiven.ret
      intro entry member
      rcases List.mem_cons.mp member with rfl | member
      · exact excused
      · exact later entry member

/-- The session after a look at the processes. -/
def withLook (session : Session)
    (answers : List (Pid × WaitAnswer)) : Session :=
  { session with jobs := (session.jobs.reap answers).2 }

theorem run_reap (session : Session) :
    (reap.run.run session : Activity (Except Failure (List Job) × Session)) =
      poll session.jobs.registered >>= fun answers =>
        pure (.ok (session.jobs.reap answers).1, withLook session answers) := by
  change (((poll session.jobs.registered >>=
    fun answers => pure (answers, session)) >>=
    fun result : List (Pid × WaitAnswer) × Session => pure (Except.ok result.1,
      result.2)) >>=
    fun result : Except Failure (List (Pid × WaitAnswer)) × Session => _) = _
  rw [bind_assoc, bind_assoc]
  rfl

theorem spares_reap : Spares ended reap := by
  intro session
  rw [run_reap]
  apply (ensuresGiven_poll session.jobs.registered).bind
  intro answers excused
  exact .ret (JobTable.spares_reap excused)

theorem spares_awaitProcess (patience : Nat) (pid : Pid) :
    Spares ended (awaitProcess patience pid) := by
  induction patience with
  | zero => exact .lift Activity.hang
  | succ patience induction =>
      apply Spares.wait_bind
      intro answer excused
      apply (Spares.modifyJobs
        fun table => JobTable.spares_recordAnswer excused).bind
      intro _
      cases answer with
      | noChange => exact induction
      | other => exact induction
      | changed pid state =>
          cases state with
          | stopped signal => exact .pure true
          | running => exact induction
          | exited status => exact .pure false
          | killed signal => exact .pure false
      | failed errno =>
          dsimp only
          split
          · exact induction
          · split
            · exact .pure false
            · exact .throw _

theorem spares_awaitProcesses (pids : List Pid) :
    Spares ended (awaitProcesses pids) := by
  induction pids with
  | nil => exact .pure ()
  | cons pid rest induction =>
      apply (spares_awaitProcess patience pid).bind
      intro stopped
      split
      · exact .pure ()
      · exact induction

theorem spares_giveTerminal (group : Pid) :
    Spares ended (giveTerminal group) := by
  apply Spares.get_bind
  intro session
  split
  · exact .discard (.lift _)
  · exact .pure ()

theorem spares_settleForeground
    (serial : Nat) : Spares ended (settleForeground serial) := by
  intro session
  apply Spares.get_bind_at
  cases found : session.jobs.get? serial with
  | none => exact .ret (.refl _)
  | some job =>
      dsimp only
      split
      · next done =>
          -- only here a job is taken out, and it is known to be done
          apply Interaction.EnsuresGiven.ret
          apply JobTable.spares_remove
          intro other foundOther
          cases found.symm.trans foundOther
          exact done
      · exact .ret (JobTable.spares_update fun _ => rfl)

theorem spares_toForeground (resume : Bool) (serial : Nat) (table : JobTable) :
    table.Spares ended
      ((table.update serial (toForeground resume)).makeCurrent serial) := by
  apply JobTable.Spares.trans _ (JobTable.spares_makeCurrent serial)
  apply JobTable.spares_update
  exact fun job => (JobTable.adjusts_toForeground resume job).livePids

theorem spares_waitFor (serial : Nat)
    (resume : Bool) : Spares ended (waitFor serial resume) := by
  have settle (waited : Except Failure Unit) : Spares ended (do
      setForeground none
      reclaimTerminal
      ofOutcome waited
      settleForeground serial) := by
    apply (Spares.lift _).bind
    intro _
    apply (Spares.get_bind fun _ => spares_giveTerminal _).bind
    intro _
    exact (Spares.ofOutcome waited).bind fun _ => spares_settleForeground serial
  have await (session : Session) : Spares ended (do
      let waited ← attempt (awaitProcesses
        (((session.jobs.get? serial).map Job.livePids).getD []))
      setForeground none
      reclaimTerminal
      ofOutcome waited
      settleForeground serial) :=
    (spares_awaitProcesses _).attempt.bind settle
  apply (spares_job "fg" serial).bind
  intro job
  apply (Spares.modifyJobs (spares_toForeground resume serial)).bind
  intro _
  apply (spares_giveTerminal job.group).bind
  intro _
  apply (Spares.lift _).bind
  intro _
  dsimp only
  split
  · exact (Spares.lift _).discard.bind fun _ => .get_bind await
  · exact .get_bind await

theorem spares_signalGroup (group : Pid) (signal : Signal) :
    Spares ended (Shell.signalGroup group signal) := by
  apply (Spares.lift _).bind
  intro reply
  cases reply with
  | ok => exact .pure ()
  | error errno => exact .throw _

theorem spares_resumeBackground
    (serial : Nat) : Spares ended (resumeBackground serial) := by
  apply (spares_job "bg" serial).bind
  intro stopped
  apply (spares_signalGroup stopped.group .cont).bind
  intro _
  refine .bind (.modifyJobs fun table => ?_) fun _ => spares_job "bg" serial
  apply JobTable.Spares.trans _ (JobTable.spares_makeCurrent serial)
  apply JobTable.spares_update
  exact fun job => job.adjusts_continued.livePids

theorem spares_signalJob (serial : Nat) (signal : Signal) :
    Spares ended (signalJob serial signal) := by
  apply (spares_job "kill" serial).bind
  intro job
  apply (spares_signalGroup job.group signal).bind
  intro _
  split
  · exact spares_signalGroup job.group .cont
  · exact .pure ()

theorem spares_changeDirectory (target : String) :
    Spares ended (Shell.changeDirectory target) := by
  apply (Spares.lift _).bind
  intro world
  cases world.canonicalize target with
  | error error => exact .pure _
  | ok path =>
      dsimp only
      split
      · exact .pure _
      · apply (Spares.lift _).bind
        intro reply
        cases reply with
        | error error => exact .pure _
        | ok =>
            refine .bind (.modify fun session => ?_) fun _ => .pure _
            cases world.currentDirectory <;> rfl

theorem spares_serialOf (command argument : String) :
    Spares ended (serialOf command argument) := by
  unfold serialOf
  dsimp only
  split
  · exact .pure _
  · exact .throw _

end Shell

namespace Builtin

open Activity Shell

variable {ended : Pid → Prop}

theorem spares_runPwd (out : Descriptor) : Spares ended (runPwd out) := by
  apply (Spares.lift _).bind
  intro world
  cases world.currentDirectory with
  | ok directory => exact (Spares.print out directory).bind fun _ => .pure 0
  | error error => exact .throw _

theorem spares_cdTarget (argument : Option String) :
    Spares ended (cdTarget argument) := by
  unfold cdTarget
  split
  · exact .get_bind fun _ => .pure _
  · apply Spares.get_bind
    intro session
    cases session.directories.previous with
    | some previous => exact .pure _
    | none => exact .throw _
  · exact (Spares.lift _).bind fun _ => .pure _

theorem spares_runCd (argument : Option String) (out : Descriptor) :
    Spares ended (runCd argument out) := by
  apply (spares_cdTarget argument).bind
  intro (target, announced)
  apply (spares_changeDirectory target).bind
  intro changed
  cases changed with
  | error error => exact .throw _
  | ok path =>
      dsimp only
      split
      · apply (Spares.lift _).bind
        intro world
        exact (Spares.print out _).bind fun _ => .pure 0
      · exact .pure 0

theorem spares_runHistory (out : Descriptor) :
    Spares ended (runHistory out) := by
  apply Spares.get_bind
  intro session
  exact (Spares.forM fun line => .print out line).bind fun _ => .pure 0

theorem spares_runQuit : Spares ended runQuit := by
  refine .bind (.modify fun _ => rfl) fun _ => ?_
  exact .get_bind fun _ => .pure _

theorem spares_runJobs (out : Descriptor) : Spares ended (runJobs out) := by
  refine .bind spares_reap fun finished => ?_
  refine .bind (.forM fun job => .print out job.display) fun _ => ?_
  refine .get_bind fun session => ?_
  exact .bind (.forM fun job => .print out job.display) fun _ => .pure 0

theorem spares_runBg (argument : String)
    (out : Descriptor) : Spares ended (runBg argument out) := by
  apply (spares_serialOf "bg" argument).bind
  intro serial
  apply (spares_resumeBackground serial).bind
  intro job
  exact (Spares.print out _).bind fun _ => .pure 0

theorem spares_runFg (argument : String)
    (out : Descriptor) : Spares ended (runFg argument out) := by
  apply (spares_serialOf "fg" argument).bind
  intro serial
  apply (spares_job "fg" serial).bind
  intro job
  apply (Spares.print out job.command).bind
  intro _
  apply (spares_waitFor serial true).bind
  intro outcome
  cases outcome with
  | exited status => exact .pure status
  | stopped serial status =>
      apply Spares.get_bind
      intro session
      cases session.jobs.get? serial with
      | some job => exact (Spares.print out _).bind fun _ => .pure status
      | none => exact .pure status

theorem spares_runKill (argument : String) :
    Spares ended (runKill argument) := by
  apply (spares_serialOf "kill" argument).bind
  intro serial
  exact (spares_signalJob serial .term).bind fun _ => .pure 0

theorem spares_runSleep (argument : String) :
    Spares ended (runSleep argument) := by
  unfold runSleep
  cases Text.parseSeconds? argument with
  | none => exact .throw _
  | some interval =>
      apply (Spares.lift _).discard.bind
      intro _
      exact (Spares.lift _).bind fun started => .lift _

theorem spares_run (builtin : Builtin) (arguments : List String)
    (out : Descriptor) :
    Spares ended (builtin.run arguments out) := by
  cases builtin with
  | pwd => exact spares_runPwd out
  | cd => exact spares_runCd arguments.head? out
  | history => exact spares_runHistory out
  | quit => exact spares_runQuit
  | exit => exact spares_runQuit
  | jobs => exact spares_runJobs out
  | bg => exact spares_runBg (arguments.headD "") out
  | fg => exact spares_runFg (arguments.headD "") out
  | kill => exact spares_runKill (arguments.headD "")
  | echo => exact (Spares.print out _).bind fun _ => .pure 0
  | sleep => exact spares_runSleep (arguments.headD "")

theorem spares_dispatch (words : List String) (out : Descriptor) :
    Spares ended (dispatch words out) := by
  unfold dispatch
  split
  · exact .pure _
  · split
    · exact .pure _
    · split
      · exact .throw _
      · exact (spares_run _ _ out).bind fun _ => .pure _

end Builtin

end JobShell
