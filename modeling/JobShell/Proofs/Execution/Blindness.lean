import JobShell.Machine.Children
import JobShell.Proofs.System.Lockstep

/-!
# Running without a look at the history

What the shell does for a sequence depends on its session, but not on the
history in it: only the builtin that lists the history shows it.  This holds of
the shell itself and of the children that it makes.
-/

namespace JobShell

namespace Shell

open Activity

variable {related : History → History → Prop}

theorem isBlind_job (command : String)
    (serial : Nat) : IsBlind related (job command serial) := by
  refine .get_bind (fun _ _ => rfl) fun session => ?_
  cases session.jobs.get? serial with
  | some job => exact .pure job
  | none => exact .throw _

theorem isBlind_reap : IsBlind related reap := by
  refine .get_bind (fun _ _ => rfl) fun session => ?_
  refine .bind (.lift _) fun answers => ?_
  refine .get_bind (fun _ _ => rfl) fun session => ?_
  exact .bind (.modifyJobs _) fun _ => .pure _

theorem isBlind_awaitProcess (patience : Nat) (pid : Pid) :
    IsBlind related (awaitProcess patience pid) := by
  induction patience with
  | zero => exact .lift Activity.hang
  | succ patience induction =>
      refine .bind (.lift _) fun answer => ?_
      refine .bind (.modifyJobs _) fun _ => ?_
      cases answer with
      | noChange => exact induction
      | other => exact induction
      | changed pid state =>
          cases state with
          | stopped signal => exact .pure true
          | running => exact induction
          | exited status => exact .pure false
          | killed signal => exact .pure false
      | failed errno =>
          dsimp only
          split
          · exact induction
          · split
            · exact .pure false
            · exact .throw _

theorem isBlind_awaitProcesses (pids : List Pid) :
    IsBlind related (awaitProcesses pids) := by
  induction pids with
  | nil => exact .pure ()
  | cons pid rest induction =>
      refine .bind (isBlind_awaitProcess patience pid) fun stopped => ?_
      split
      · exact .pure ()
      · exact induction

theorem isBlind_giveTerminal (group : Pid) :
    IsBlind related (giveTerminal group) := by
  refine .get_bind (fun _ _ => rfl) fun session => ?_
  split
  · exact .discard (.lift _)
  · exact .pure ()

theorem isBlind_settleForeground
    (serial : Nat) : IsBlind related (settleForeground serial) := by
  refine .get_bind (fun _ _ => rfl) fun session => ?_
  cases session.jobs.get? serial with
  | none => exact .pure _
  | some job =>
      dsimp only
      split
      · exact .bind (.modifyJobs _) fun _ => .pure _
      · exact .bind (.modifyJobs _) fun _ => .pure _

theorem isBlind_waitFor (serial : Nat) (resume : Bool) :
    IsBlind related (waitFor serial resume) := by
  have settle (waited : Except Failure Unit) : IsBlind related (do
      setForeground none
      reclaimTerminal
      ofOutcome waited
      settleForeground serial) := by
    refine .bind (.lift _) fun _ => ?_
    refine .bind (.get_bind (fun _ _ => rfl) fun _ => isBlind_giveTerminal _)
      fun _ => ?_
    exact .bind (.ofOutcome waited) fun _ => isBlind_settleForeground serial
  refine .bind (isBlind_job "fg" serial) fun job => ?_
  refine .bind (.modifyJobs _) fun _ => ?_
  refine .bind (isBlind_giveTerminal job.group) fun _ => ?_
  refine .bind (.lift _) fun _ => ?_
  dsimp only
  split
  · refine .bind (.discard (.lift _)) fun _ => ?_
    refine .get_bind (fun _ _ => rfl) fun session => ?_
    exact .bind (.attempt (isBlind_awaitProcesses _)) settle
  · refine .get_bind (fun _ _ => rfl) fun session => ?_
    exact .bind (.attempt (isBlind_awaitProcesses _)) settle

theorem isBlind_signalGroup (group : Pid) (signal : Signal) :
    IsBlind related (Shell.signalGroup group signal) := by
  refine .bind (.lift _) fun reply => ?_
  cases reply with
  | ok => exact .pure ()
  | error errno => exact .throw _

theorem isBlind_resumeBackground
    (serial : Nat) : IsBlind related (resumeBackground serial) := by
  refine .bind (isBlind_job "bg" serial) fun stopped => ?_
  refine .bind (isBlind_signalGroup stopped.group .cont) fun _ => ?_
  exact .bind (.modifyJobs _) fun _ => isBlind_job "bg" serial

theorem isBlind_signalJob (serial : Nat) (signal : Signal) :
    IsBlind related (signalJob serial signal) := by
  refine .bind (isBlind_job "kill" serial) fun job => ?_
  refine .bind (isBlind_signalGroup job.group signal) fun _ => ?_
  split
  · exact isBlind_signalGroup job.group .cont
  · exact .pure ()

theorem isBlind_changeDirectory (target : String) :
    IsBlind related (Shell.changeDirectory target) := by
  refine .bind (.lift _) fun world => ?_
  cases world.canonicalize target with
  | error error => exact .pure _
  | ok path =>
      dsimp only
      split
      · exact .pure _
      · refine .bind (.lift _) fun reply => ?_
        cases reply with
        | error error => exact .pure _
        | ok =>
            refine .bind (.modify (fun session => ?_) fun session history => ?_)
              fun _ => .pure _
            · cases world.currentDirectory <;> rfl
            · cases world.currentDirectory <;> rfl

theorem isBlind_serialOf (command argument : String) :
    IsBlind related (serialOf command argument) := by
  unfold serialOf
  dsimp only
  split
  · exact .pure _
  · exact .throw _

end Shell

namespace Builtin

open Activity Shell

variable {related : History → History → Prop}

theorem isBlind_runPwd (out : Descriptor) : IsBlind related (runPwd out) := by
  refine .bind (.lift _) fun world => ?_
  cases world.currentDirectory with
  | ok directory => exact .bind (.print out directory) fun _ => .pure 0
  | error error => exact .throw _

theorem isBlind_cdTarget (argument : Option String) :
    IsBlind related (cdTarget argument) := by
  unfold cdTarget
  split
  · exact .get_bind (fun _ _ => rfl) fun _ => .pure _
  · refine .get_bind (fun _ _ => rfl) fun session => ?_
    cases session.directories.previous with
    | some previous => exact .pure _
    | none => exact .throw _
  · exact .bind (.lift _) fun _ => .pure _

theorem isBlind_runCd (argument : Option String) (out : Descriptor) :
    IsBlind related (runCd argument out) := by
  refine .bind (isBlind_cdTarget argument) fun (target, announced) => ?_
  refine .bind (isBlind_changeDirectory target) fun changed => ?_
  cases changed with
  | error error => exact .throw _
  | ok path =>
      dsimp only
      split
      · refine .bind (.lift _) fun world => ?_
        exact .bind (.print out _) fun _ => .pure 0
      · exact .pure 0

theorem isBlind_runHistory (out : Descriptor) :
    IsBlind related (runHistory out) := by
  have lists : runHistory out =
      (get >>= fun session : Session =>
        (historyLines session.history.entries).forM (print out)) >>= fun _ =>
          pure 0 := by
    rw [bind_assoc]
    rfl
  rw [lists]
  exact .bind (isBlind_listHistory out) fun _ => .pure 0

theorem isBlind_runQuit : IsBlind related runQuit := by
  refine .bind (.modify (fun _ => rfl) fun _ _ => rfl) fun _ => ?_
  exact .get_bind (fun _ _ => rfl) fun _ => .pure _

theorem isBlind_runJobs (out : Descriptor) : IsBlind related (runJobs out) := by
  refine .bind isBlind_reap fun finished => ?_
  refine .bind (.forM fun job => .print out job.display) fun _ => ?_
  refine .get_bind (fun _ _ => rfl) fun session => ?_
  exact .bind (.forM fun job => .print out job.display) fun _ => .pure 0

theorem isBlind_runBg (argument : String) (out : Descriptor) :
    IsBlind related (runBg argument out) := by
  refine .bind (isBlind_serialOf "bg" argument) fun serial => ?_
  refine .bind (isBlind_resumeBackground serial) fun job => ?_
  exact .bind (.print out _) fun _ => .pure 0

theorem isBlind_runFg (argument : String) (out : Descriptor) :
    IsBlind related (runFg argument out) := by
  refine .bind (isBlind_serialOf "fg" argument) fun serial => ?_
  refine .bind (isBlind_job "fg" serial) fun job => ?_
  refine .bind (.print out job.command) fun _ => ?_
  refine .bind (isBlind_waitFor serial true) fun outcome => ?_
  cases outcome with
  | exited status => exact .pure status
  | stopped serial status =>
      refine .get_bind (fun _ _ => rfl) fun session => ?_
      cases session.jobs.get? serial with
      | some job => exact .bind (.print out _) fun _ => .pure status
      | none => exact .pure status

theorem isBlind_runKill (argument : String) :
    IsBlind related (runKill argument) := by
  refine .bind (isBlind_serialOf "kill" argument) fun serial => ?_
  exact .bind (isBlind_signalJob serial .term) fun _ => .pure 0

theorem isBlind_runSleep (argument : String) :
    IsBlind related (runSleep argument) := by
  unfold runSleep
  cases Text.parseSeconds? argument with
  | none => exact .throw _
  | some interval =>
      refine .bind (.discard (.lift _)) fun _ => ?_
      exact .bind (.lift _) fun started => .lift _

theorem isBlind_run (builtin : Builtin) (arguments : List String)
    (out : Descriptor) :
    IsBlind related (builtin.run arguments out) := by
  cases builtin with
  | pwd => exact isBlind_runPwd out
  | cd => exact isBlind_runCd arguments.head? out
  | history => exact isBlind_runHistory out
  | quit => exact isBlind_runQuit
  | exit => exact isBlind_runQuit
  | jobs => exact isBlind_runJobs out
  | bg => exact isBlind_runBg (arguments.headD "") out
  | fg => exact isBlind_runFg (arguments.headD "") out
  | kill => exact isBlind_runKill (arguments.headD "")
  | echo => exact .bind (.print out _) fun _ => .pure 0
  | sleep => exact isBlind_runSleep (arguments.headD "")

theorem isBlind_dispatch (words : List String) (out : Descriptor) :
    IsBlind related (dispatch words out) := by
  unfold dispatch
  split
  · exact .pure _
  · split
    · exact .pure _
    · split
      · exact .throw _
      · exact .bind (isBlind_run _ _ out) fun _ => .pure _

end Builtin

namespace Shell

open Activity

variable {related : History → History → Prop}

theorem isBlind_report (failure : Failure) : IsBlind related (report failure) :=
  .bind (.lift _) fun _ => .pure _

theorem isBlind_openRedirection (redirection : Redirection) :
    IsBlind related (openRedirection redirection) := by
  refine .bind (.lift _) fun reply => ?_
  cases reply with
  | ok descriptor => exact .pure descriptor
  | error error => exact .throw _

theorem isBlind_openRedirections (opened : List (Descriptor × Descriptor))
    (redirections : List Redirection) :
    IsBlind related (openRedirections opened redirections) := by
  induction redirections generalizing opened with
  | nil => exact .pure opened
  | cons redirection rest induction =>
      refine .bind (.attempt (isBlind_openRedirection redirection))
        fun ended => ?_
      cases ended with
      | ok descriptor => exact induction _
      | error failure => exact .bind (.lift _) fun _ => .throw failure

theorem isBlind_prepareIfNeeded (command : Command) :
    IsBlind related (prepareIfNeeded command) := by
  unfold prepareIfNeeded prepare
  split
  · exact .pure none
  · refine .bind (.bind (.lift _) fun world => ?_) fun launch =>
      .pure (some launch)
    dsimp only
    split
    · exact .throw _
    · split
      · exact .throw _
      · exact .pure _

theorem isBlind_enterGroup (child : Pid) (group : Option Pid) :
    IsBlind related (enterGroup child group) := by
  refine .get_bind (fun _ _ => rfl) fun session => ?_
  split
  · exact .discard (.lift _)
  · exact .pure ()

theorem isBlind_spawn (command : Command) (input output : Option Descriptor)
    (group : Option Pid) (background : Bool) :
    IsBlind related (spawn command input output group background) := by
  refine .bind (.attempt ?_) fun outcome =>
    .bind (.lift _) fun _ => .ofOutcome outcome
  refine .bind (isBlind_prepareIfNeeded command) fun launch => ?_
  refine .bind (isBlind_openRedirections [] command.redirections)
    fun redirections => ?_
  refine .fork_bind (fun _ _ agree =>
    .stage agree command launch _ group background) fun forked => ?_
  refine .bind (.lift _) fun _ => ?_
  cases forked with
  | ok child =>
      exact .bind (isBlind_enterGroup child group) fun _ => .pure child
  | error errno => exact .throw _

theorem isBlind_openPipeIf (needed : Bool) :
    IsBlind related (openPipeIf needed) := by
  unfold openPipeIf
  split
  · refine .bind (.lift _) fun reply => ?_
    cases reply with
    | ok ends => exact .pure _
    | error errno => exact .throw _
  · exact .pure _

theorem isBlind_launchStages (background : Bool) (stages : List Command)
    (launched : Launched) :
    IsBlind related (launchStages background stages launched) := by
  induction stages generalizing launched with
  | nil => exact .pure launched
  | cons command rest induction =>
      refine .bind (.attempt (isBlind_openPipeIf !rest.isEmpty)) fun piped => ?_
      cases piped with
      | error failure => exact .bind (.lift _) fun _ => .throw failure
      | ok ends =>
          refine .bind (.attempt (isBlind_spawn command _ _ _ background))
            fun spawned => ?_
          cases spawned with
          | ok pid => exact induction _
          | error failure =>
              exact .bind (isBlind_report failure) fun _ => induction _

theorem isBlind_addJob (group : Pid) (pids : List Pid) (line : String)
    (background : Bool) :
    IsBlind related (addJob group pids line background) :=
  .get_bind (fun _ _ => rfl) fun _ => .bind (.modifyJobs _) fun _ => .pure _

theorem isBlind_waitForLaunched
    (serial : Nat) : IsBlind related (waitForLaunched serial) := by
  refine .bind (isBlind_waitFor serial false) fun outcome => ?_
  cases outcome with
  | exited status => exact .pure _
  | stopped serial status =>
      refine .get_bind (fun _ _ => rfl) fun session => ?_
      cases session.jobs.get? serial with
      | some job => exact .bind (.lift _) fun _ => .pure _
      | none => exact .pure _

theorem isBlind_runJob (pipeline : Pipeline) (background : Bool) :
    IsBlind related (runJob pipeline background) := by
  refine .bind (isBlind_launchStages background pipeline.stages .nothing)
    fun launched => ?_
  cases launched.group with
  | none => exact .pure _
  | some leader =>
      refine .get_bind (fun _ _ => rfl) fun session => ?_
      refine .bind (isBlind_addJob _ _ _ _) fun serial => ?_
      split
      · exact .bind (.lift _) fun _ => .pure 0
      · exact .bind (isBlind_waitForLaunched serial) fun _ => .pure _

theorem isBlind_runBuiltin (command : Command) :
    IsBlind related (runBuiltin command) := by
  have opens : ∀ redirection : Option Redirection,
      IsBlind related (redirection.mapM openRedirection) := by
    intro redirection
    cases redirection with
    | none => exact .pure none
    | some redirection =>
        exact .bind (isBlind_openRedirection redirection) fun _ => .pure _
  refine .bind (opens _) fun output => ?_
  refine .bind (.attempt ?_) fun outcome =>
    .bind (.lift _) fun _ => .ofOutcome outcome
  refine .bind (opens _) fun input => ?_
  refine .bind (.lift _) fun _ => ?_
  refine .bind (Builtin.isBlind_dispatch _ _) fun dispatched => ?_
  cases dispatched with
  | ran status => exact .pure status
  | notBuiltin => exact .throw _

theorem isBlind_runPipeline (background : Bool) (pipeline : Pipeline) :
    IsBlind related (runPipeline background pipeline) := by
  unfold runPipeline
  split
  · split
    · exact isBlind_runBuiltin _
    · exact isBlind_runJob pipeline background
  · exact isBlind_runJob pipeline background

theorem IsBlind.reported {action : Shell Int} (blind : IsBlind related action) :
    IsBlind related (reported action) := by
  refine .bind (.attempt blind) fun ended => ?_
  cases ended with
  | ok status => exact .pure status
  | error failure => exact isBlind_report failure

theorem isBlind_runPipelines {runOne : Pipeline → Shell Int}
    (blind : ∀ pipeline, IsBlind related (runOne pipeline)) (status : Int)
    (pipelines : List Pipeline) :
    IsBlind related (runPipelines runOne status pipelines) := by
  induction pipelines generalizing status with
  | nil => exact .pure status
  | cons pipeline rest induction =>
      unfold runPipelines
      split
      · exact induction status
      · refine .bind (.reported (blind pipeline)) fun status => ?_
        refine .bind (.modify (fun _ => rfl) fun _ _ => rfl) fun _ => ?_
        refine .get_bind (fun _ _ => rfl) fun session => ?_
        split
        · exact .pure status
        · exact induction status

theorem isBlind_runSubshell (sequence : Sequence) :
    IsBlind related (runSubshell sequence) := by
  refine .fork_bind (fun _ _ agree => .subshell agree sequence) fun reply => ?_
  cases reply with
  | error errno => exact .throw _
  | ok child =>
      refine .bind (isBlind_enterGroup child none) fun _ => ?_
      refine .bind (isBlind_addJob child [child] sequence.display true)
        fun serial => ?_
      exact .bind (.lift _) fun _ => .pure 0

theorem isBlind_execute (sequence : Sequence) :
    IsBlind related (execute sequence) := by
  unfold execute
  split
  · exact .get_bind (fun _ _ => rfl) fun _ => .pure _
  · split
    · refine .bind (.reported (isBlind_runSubshell sequence)) fun status => ?_
      exact .bind (.modify (fun _ => rfl) fun _ _ => rfl) fun _ => .pure status
    · exact .get_bind (fun _ _ => rfl) fun _ =>
        isBlind_runPipelines (isBlind_runPipeline sequence.background) _ _

theorem isBlind_detach : IsBlind related detach := by
  have forgets : IsBlind related (do
      resetSignals
      let group ← ownGroup
      modify fun session : Session =>
        { session with
          relay := none, jobs := .empty, terminal := .subshell group }) := by
    refine .bind (.lift _) fun _ => ?_
    exact .bind (.lift _) fun _ => .modify (fun _ => rfl) fun _ _ => rfl
  refine .get_bind (fun _ _ => rfl) fun session => ?_
  cases session.relay with
  | none => exact forgets
  | some relay => exact .bind (.lift _) fun _ => forgets

end Shell

open Activity Shell

variable {related : History → History → Prop} {session twin : Session}

theorem Stage.runBuiltin_lockstep (agree : session.Agrees related twin)
    (command : Command) :
    Lockstep related Eq (Stage.runBuiltin session command)
      (Stage.runBuiltin twin command) := by
  have runs :
      IsBlind related (Builtin.dispatch command.arguments .standardOutput) :=
    Builtin.isBlind_dispatch command.arguments .standardOutput
  exact runs.ends_lockstep agree fun _ _ _ => rfl

/-- What a stage does when its files have been put in place. -/
def Stage.work (session : Session) (command : Command)
    (launch : Option Launch) :
    Except Errno Unit → Activity Int
  | .error errno => do
    complain command.program (Failure.system errno).message
    pure 1
  | .ok () =>
    match launch with
    | none => runBuiltin session command
    | some launch => become command launch

theorem Stage.work_lockstep (agree : session.Agrees related twin)
    (command : Command) (launch : Option Launch) (wired : Except Errno Unit) :
    Lockstep related Eq (Stage.work session command launch wired)
      (Stage.work twin command launch wired) := by
  cases wired with
  | error errno => exact .refl (fun _ => rfl) _
  | ok =>
      cases launch with
      | none => exact runBuiltin_lockstep agree command
      | some launch => exact .refl (fun _ => rfl) _

theorem Stage.body_lockstep (agree : session.Agrees related twin)
    (command : Command) (launch : Option Launch) (wiring : Wiring)
    (group : Option Pid) (background : Bool) :
    Lockstep related Eq
      (Stage.body session command launch wiring group background)
      (Stage.body twin command launch wiring group background) := by
  have terminal : twin.terminal = session.terminal := by
    rw [agree.rest]
    rfl
  have works : Lockstep related Eq
      (resetSignals >>= fun _ =>
        wire wiring >>= Stage.work session command launch)
      (resetSignals >>= fun _ => wire wiring >>=
        Stage.work twin command launch) :=
    .after _ fun _ => .after _ (Stage.work_lockstep agree command launch)
  unfold Stage.body
  rw [terminal]
  dsimp only
  split
  · refine .after _ fun me => .after _ fun _ => ?_
    split
    · exact .after _ fun _ => works
    · exact works
  · exact works

theorem Task.subshellBody_lockstep (agree : session.Agrees related twin)
    (sequence : Sequence) :
    Lockstep related Eq (Task.subshellBody session sequence)
      (Task.subshellBody twin sequence) := by
  have terminal : twin.terminal = session.terminal := by
    rw [agree.rest]
    rfl
  have runs : IsBlind related (do
      Shell.detach
      Shell.execute { sequence with background := false }) :=
    .bind isBlind_detach fun _ => isBlind_execute _
  unfold Task.subshellBody
  rw [terminal]
  dsimp only
  split
  · exact .after _ fun me => .after _ fun _ =>
      runs.ends_lockstep agree fun _ _ _ => rfl
  · exact runs.ends_lockstep agree fun _ _ _ => rfl

/-- Children that begin with sessions that agree run in lockstep. -/
theorem Task.Alike.body_lockstep {task other : Task}
    (alike : task.Alike related other) :
    Lockstep related Eq task.body other.body := by
  cases alike with
  | stage agree command launch wiring group background =>
      exact Stage.body_lockstep agree command launch wiring group background
  | subshell agree sequence => exact Task.subshellBody_lockstep agree sequence

end JobShell
