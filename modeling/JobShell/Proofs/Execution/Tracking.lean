import JobShell.Proofs.Execution.Launching
import JobShell.Proofs.Job.Ending

/-!
# What a pipeline in the foreground is tracked by

The job of a pipeline has the processes of the stages that were launched, in
their order, and no others; where none was launched there is no job.  The status
of the pipeline is that of its last stage: of its failure to be launched, or of
the end of its process.  This is so where every end has a name for the table.
Where one has none, the pipeline fails, and its job is left behind.
-/

namespace JobShell

/-- The pipeline is one builtin, which runs in the shell itself. -/
def Pipeline.RunsInShell (pipeline : Pipeline) : Prop :=
  ∃ command, pipeline.stages = [command] ∧ command.builtin = true

namespace Chain

variable {session : Session} {background : Bool} {group : Option Pid}
  {input : Option Descriptor} {launches : List StageLaunch}

theorem exists_starts (chain : Chain session background group input launches) :
    ∀ launch ∈ launches, ∃ group, launch.Starts session background group := by
  induction chain with
  | nil => exact List.forall_mem_nil _
  | cons starts _ _ induction =>
      intro launch member
      rcases List.mem_cons.mp member with rfl | later
      · exact ⟨_, starts⟩
      · exact induction launch later

theorem pids_forksIn (chain : Chain session background group input launches) :
    (forksIn (launches.flatMap StageLaunch.exchanges)).map Prod.snd =
      launches.filterMap StageLaunch.pid? := by
  induction chain with
  | nil => rfl
  | cons starts _ _ induction =>
      rw [List.flatMap_cons, forksIn_append, List.map_append,
        starts.pids_forksIn, induction, List.filterMap_cons]
      split
      · next nobody =>
          rw [nobody]
          rfl
      · next launched =>
          rw [launched]
          rfl

theorem heardIn_eq_nil (chain : Chain session background group input launches) :
    heardIn (launches.flatMap StageLaunch.exchanges) = [] := by
  induction chain with
  | nil => rfl
  | cons starts _ _ induction =>
      rw [List.flatMap_cons, heardIn_append,
        starts.heardIn_exchanges, induction]
      rfl

end Chain

/-- What a stage answers for, given how the processes end: its failure to be
launched, or the end of its process. -/
def StageLaunch.answer (ends : Pid → ProcessEnd) (launch : StageLaunch) : Int :=
  match launch.outcome with
  | .ok pid => (ends pid).status
  | .error failure => failure.status

section Answer

variable {launches : List StageLaunch} {last : StageLaunch}
  {ends : Pid → ProcessEnd}

theorem failure_of_getLast? (isLast : launches.getLast? = some last) :
    (launches.foldl Shell.Launched.extend .nothing).failure =
      last.failureStatus? := by
  rw [Shell.Launched.failure_foldl_extend, isLast]
  rfl

theorem getLast?_pids (isLast : launches.getLast? = some last) {pid : Pid}
    (launched : last.outcome = .ok pid) :
    (launches.filterMap StageLaunch.pid?).getLast? = some pid := by
  obtain ⟨front, rfl⟩ := List.getLast?_eq_some_iff.mp isLast
  have own : last.pid? = some pid := by
    rw [StageLaunch.pid?, launched]
    rfl
  rw [List.filterMap_append, List.filterMap_cons_some own]
  exact List.getLast?_concat

theorem exists_last {stages : List Command}
    (commands : launches.map StageLaunch.command = stages) (any : stages ≠ []) :
    ∃ last, launches.getLast? = some last := by
  rw [← Option.ne_none_iff_exists', Ne, List.getLast?_eq_none_iff]
  rintro rfl
  exact any commands.symm

/-- The failure of the last stage takes the place of the status of the job. -/
theorem answer_eq (isLast : launches.getLast? = some last) {status : Int}
    (ofLast : ∀ pid, (launches.filterMap StageLaunch.pid?).getLast? = some pid →
      status = (ends pid).status) :
    (launches.foldl Shell.Launched.extend .nothing).failure.getD status =
      last.answer ends := by
  rw [failure_of_getLast? isLast, StageLaunch.failureStatus?,
    StageLaunch.answer]
  cases ended : last.outcome with
  | ok pid => exact ofLast pid (getLast?_pids isLast ended)
  | error failure => rfl

end Answer

namespace Shell

open JobTable

variable {before after : Session} {exchanges : List Exchange}

/-- A wait makes no children. -/
theorem forksIn_of_foregroundCalls {control : TerminalControl} {group : Pid}
    {resume : Bool} {asked : List Pid}
    (calls : exchanges.map Sigma.fst =
      foregroundCalls control group resume asked) :
    forksIn exchanges = [] := by
  apply forksIn_eq_nil
  intro exchange member task same
  have listed : Call.fork task ∈
      foregroundCalls control group resume asked := by
    rw [← calls, ← same]
    exact List.mem_map_of_mem member
  cases interactive : control.interactive <;> cases resume <;>
    simp [foregroundCalls, TerminalControl.handOver, interactive] at listed

/-- A wait for a new job asks and hears no more than a wait for any job. -/
theorem goes_waitForLaunched {serial : Nat}
    {outcome : Except Failure WaitOutcome}
    (goes : (waitForLaunched serial).Goes before exchanges outcome after) :
    ∃ waiting, (waitFor serial false).Goes before waiting outcome after ∧
      heardIn exchanges = heardIn waiting ∧
      forksIn exchanges = forksIn waiting := by
  unfold waitForLaunched at goes
  rcases goes_bind.mp goes with
    ⟨waiting, showing, ended, between, rfl, waited, shown⟩ | ⟨_, waited, rfl⟩
  · cases ended with
    | exited status =>
        obtain ⟨rfl, rfl, rfl⟩ := goes_pure.mp shown
        rw [List.append_nil]
        exact ⟨waiting, waited, rfl, rfl⟩
    | stopped shownSerial status =>
        have quiet : (heardIn showing = [] ∧ forksIn showing = []) ∧
            outcome = .ok (.stopped shownSerial status) ∧ after = between := by
          rw [goes_get_bind] at shown
          split at shown
          · obtain ⟨_, _, _, rfl, said, ended⟩ := goes_lift_bind.mp shown
            obtain ⟨reply, rfl⟩ := Activity.goes_say.mp said
            obtain ⟨rfl, rfl, rfl⟩ := goes_pure.mp ended
            exact ⟨⟨rfl, rfl⟩, rfl, rfl⟩
          · obtain ⟨rfl, rfl, rfl⟩ := goes_pure.mp shown
            exact ⟨⟨rfl, rfl⟩, rfl, rfl⟩
        obtain ⟨⟨heardNothing, childless⟩, rfl, rfl⟩ := quiet
        refine ⟨waiting, waited, ?_, ?_⟩
        · simp [heardNothing]
        · simp [childless]
  · exact ⟨exchanges, waited, rfl, rfl⟩

section Ends

variable {tell : Pid → ProcessEnd → WaitAnswer} {ends : Pid → ProcessEnd}
  {serial : Nat} {job : Job} {outcome : Except Failure WaitOutcome}

/-- A job whose processes all come to an end with a name answers for the
last. -/
theorem exited_of_goes_waitFor (consistent : before.jobs.Consistent)
    (found : before.jobs.get? serial = some job)
    (allLive : job.livePids = job.pids)
    (goes : (waitFor serial false).Goes before exchanges outcome after)
    (tells : TellsEnds tell) (awaits : AwaitEnds tell ends (heardIn exchanges))
    (named : ∀ pid ∈ job.pids, (ends pid).state? ≠ none) :
    ∃ status, outcome = .ok (.exited status) ∧
      ∀ pid, job.pids.getLast? = some pid → status = (ends pid).status := by
  obtain ⟨_, hears, _⟩ := goes_waitFor found goes
  have allLive : (toForeground false job).livePids =
      (toForeground false job).pids := allLive
  rw [allLive] at hears
  have ended := hears.state?_of_named tells awaits named
  obtain ⟨concludes, _⟩ := concludes_of_goes consistent found goes
    fun entry listed => tells.isAbout (awaits entry listed)
  cases concludes with
  | exited _ _ _ =>
      refine ⟨_, rfl, fun pid isLast => ?_⟩
      have pids : ((toForeground false job).heard (heardIn exchanges)).pids =
          job.pids := Job.pids_heard ..
      rw [← pids, Job.pids, List.getLast?_map] at isLast
      obtain ⟨process, isLastProcess, rfl⟩ := Option.map_eq_some_iff.mp isLast
      rw [isLastProcess, Option.map_some, Option.getD_some]
      exact ProcessEnd.status_of_state?
        (ended process (List.mem_of_getLast? isLastProcess))
  | stopped first state _ =>
      have finished := ProcessEnd.isFinished_of_state?
        (ended _ (List.mem_of_find?_eq_some first))
      rw [state] at finished
      cases finished
  | failed unfinished _ =>
      refine absurd
        (Job.state_eq_done_iff.mpr fun process listed => ?_) unfinished
      exact ProcessEnd.isFinished_of_state? (ended process listed)

/-- Where a process comes to an end without a name, the wait fails and the job
is left behind as if the process ran on. -/
theorem failed_of_goes_waitFor (consistent : before.jobs.Consistent)
    (found : before.jobs.get? serial = some job)
    (running : ∀ process ∈ job.processes, process.state = .running)
    (allLive : job.livePids = job.pids)
    (goes : (waitFor serial false).Goes before exchanges outcome after)
    (tells : TellsEnds tell) (awaits : AwaitEnds tell ends (heardIn exchanges))
    (nameless : ∃ pid ∈ job.pids, (ends pid).state? = none) :
    (∃ errno, outcome = .error (.system errno)) ∧
      ∃ left, after.jobs.get? serial = some left ∧ left.pids = job.pids ∧
        left.state = .running ∧
        ∀ pid ∈ job.pids, (ends pid).state? = none → pid ∈ left.livePids := by
  obtain ⟨conclusion, hears, _, settles⟩ := goes_waitFor found goes
  have live : (toForeground false job).livePids = job.pids := allLive
  rw [live] at hears
  obtain ⟨errno, rfl⟩ := hears.conclusion_of_nameless tells awaits nameless
  have failed : outcome = .error (.system errno) := by
    rcases goes_bind.mp settles with ⟨_, _, _, _, _, ended, _⟩ | ⟨_, ended, rfl⟩
    · cases (goes_ofOutcome.mp ended).2.1
    · obtain ⟨_, same, _⟩ := goes_ofOutcome.mp ended
      cases same
      rfl
  obtain ⟨concludes, _⟩ := concludes_of_goes consistent found goes
    fun entry listed => tells.isAbout (awaits entry listed)
  refine ⟨⟨errno, failed⟩, ?_⟩
  subst failed
  cases concludes with
  | failed unfinished stays =>
      obtain ⟨left, foundLeft, same⟩ := Option.map_eq_some_iff.mp stays
      refine ⟨left, foundLeft, ?_, ?_, ?_⟩
      · exact (congrArg Job.pids same :).trans (Job.pids_heard ..)
      · rw [state_of_unmarked same]
        exact state_eq_running unfinished (awaits.isStopped_heard tells running)
      · intro pid member unknown
        have live : pid ∈ (toForeground false job).livePids :=
          allLive.symm ▸ member
        have lives := awaits.mem_livePids_heard tells live unknown
        exact (congrArg Job.livePids same :) ▸ lives

end Ends

theorem goes_addJob_bind {α : Type} {group : Pid} {pids : List Pid}
    {line : String} {background : Bool} {next : Nat → Shell α}
    {outcome : Except Failure α} :
    (addJob group pids line background >>= next).Goes before exchanges
      outcome after ↔
      (next before.jobs.nextSerial).Goes
        { before with jobs := (before.jobs.add group pids line background).2 }
        exchanges outcome after :=
  Iff.rfl

theorem goes_runPipeline {pipeline : Pipeline} {background : Bool}
    {outcome : Except Failure Int} (forks : ¬pipeline.RunsInShell)
    (goes : (runPipeline background pipeline).Goes before exchanges
      outcome after) :
    (runJob pipeline background).Goes before exchanges outcome after := by
  unfold runPipeline at goes
  split at goes
  · next command stages =>
      rw [if_neg fun builtin => forks ⟨command, stages, builtin⟩] at goes
      exact goes
  · exact goes

/-- The group of a job that has this leader. -/
def jobGroup (control : TerminalControl) (leader : Pid) : Pid :=
  if control.ownGroups then leader else control.shellGroup

@[simp] theorem get?_add_self (table : JobTable) (group : Pid) (pids : List Pid)
    (line : String) (background : Bool) :
    (table.add group pids line background).2.get? table.nextSerial =
      some (remarked table.nextSerial
        (Job.launched group table.nextSerial pids line background)) := by
  rw [get?_add, if_pos rfl]

/-- A new job has its processes, and all of them run. -/
theorem exists_get?_add (table : JobTable) (group : Pid) (pids : List Pid)
    (line : String) (background : Bool) :
    ∃ job, (table.add group pids line background).2.get? table.nextSerial =
        some job ∧
      job.pids = pids ∧ job.livePids = pids ∧
      ∀ process ∈ job.processes, process.state = .running := by
  refine ⟨_, get?_add_self .., by simp, by simp, fun process listed => ?_⟩
  rw [processes_remarked] at listed
  obtain ⟨_, _, rfl⟩ := List.mem_map.mp listed
  rfl

theorem forksIn_of_waitForLaunched {serial : Nat} {job : Job}
    {outcome : Except Failure WaitOutcome}
    (found : before.jobs.get? serial = some job)
    (goes : (waitForLaunched serial).Goes before exchanges outcome after) :
    forksIn exchanges = [] := by
  obtain ⟨waiting, waited, _, same⟩ := goes_waitForLaunched goes
  obtain ⟨_, _, calls, _⟩ := goes_waitFor found waited
  rw [same, forksIn_of_foregroundCalls calls]

/-- What is left to do for a job that has been entered into the table. -/
def conclude (background : Bool) (launched : Launched) (leader : Pid)
    (serial : Nat) : Shell Int :=
  if background then do
    announce serial (launched.pids.getLast?.getD leader)
    pure 0
  else do
    let outcome ← waitForLaunched serial
    pure (launched.failure.getD outcome.status)

/-- A pipeline is launched as a whole, and becomes a job if anything was
launched. -/
theorem goes_runJob_launched {pipeline : Pipeline} {background : Bool}
    {outcome : Except Failure Int}
    (piped : ∀ exchange ∈ exchanges, exchange.lacksPipe = false)
    (goes : (runJob pipeline background).Goes before exchanges outcome after) :
    ∃ launches rest,
      exchanges = launches.flatMap StageLaunch.exchanges ++ rest ∧
      launches.map StageLaunch.command = pipeline.stages ∧
      Chain before background none none launches ∧
      match (launches.filterMap StageLaunch.pid?).head? with
      | none => rest = [] ∧ after = before ∧
        outcome = .ok ((launches.foldl Launched.extend .nothing).failure.getD 1)
      | some leader =>
        (conclude background (launches.foldl Launched.extend .nothing) leader
          before.jobs.nextSerial).Goes
          { before with
            jobs := (before.jobs.add (jobGroup before.terminal leader)
              (launches.filterMap StageLaunch.pid?) pipeline.display
                background).2 }
          rest outcome after := by
  unfold runJob at goes
  rcases goes_bind.mp goes with
    ⟨launching, rest, launched, _, rfl, tried, goesOn⟩ | ⟨_, tried, rfl⟩
  · obtain ⟨rfl, launches, rfl, same, commands, chain⟩ :=
      goes_launchStages (fun exchange member =>
        piped exchange (List.mem_append_left _ member)) tried fun _ => rfl
    obtain rfl := Except.ok.inj same
    refine ⟨launches, rest, rfl, commands, chain, ?_⟩
    have group := Launched.group_foldl_extend launches .nothing
    have pids := Launched.pids_foldl_extend launches .nothing
    generalize launches.foldl Launched.extend .nothing = launched at *
    have leaders : launched.group =
        (launches.filterMap StageLaunch.pid?).head? := group
    have members : launched.pids = launches.filterMap StageLaunch.pid? := pids
    rw [leaders] at goesOn
    cases head : (launches.filterMap StageLaunch.pid?).head? with
    | none =>
        rw [head] at goesOn
        obtain ⟨rfl, rfl, rfl⟩ := goes_pure.mp goesOn
        exact ⟨rfl, rfl, rfl⟩
    | some leader =>
        rw [head] at goesOn
        rw [← members]
        exact goes_addJob_bind.mp (goes_get_bind.mp goesOn)
  · obtain ⟨_, _, _, impossible, _⟩ :=
      goes_launchStages piped tried fun _ => rfl
    cases impossible

/-- The job of a pipeline in the foreground is waited for. -/
theorem goes_runJob {pipeline : Pipeline} {outcome : Except Failure Int}
    (piped : ∀ exchange ∈ exchanges, exchange.lacksPipe = false)
    (goes : (runJob pipeline false).Goes before exchanges outcome after) :
    ∃ launches rest,
      exchanges = launches.flatMap StageLaunch.exchanges ++ rest ∧
      launches.map StageLaunch.command = pipeline.stages ∧
      Chain before false none none launches ∧ forksIn rest = [] ∧
      match (launches.filterMap StageLaunch.pid?).head? with
      | none => rest = [] ∧ after = before ∧
        outcome = .ok ((launches.foldl Launched.extend .nothing).failure.getD 1)
      | some leader => ∃ waited,
        (waitForLaunched before.jobs.nextSerial).Goes
          { before with
            jobs := (before.jobs.add (jobGroup before.terminal leader)
              (launches.filterMap StageLaunch.pid?) pipeline.display false).2 }
          rest waited after ∧
        outcome = waited.map fun ended =>
          (launches.foldl Launched.extend .nothing).failure.getD
            ended.status := by
  obtain ⟨launches, rest, rfl, commands, chain, concludes⟩ :=
    goes_runJob_launched piped goes
  refine ⟨launches, rest, rfl, commands, chain, ?_⟩
  cases head : (launches.filterMap StageLaunch.pid?).head? with
  | none =>
      rw [head] at concludes
      obtain ⟨rfl, ended⟩ := concludes
      exact ⟨rfl, rfl, ended⟩
  | some leader =>
      rw [head] at concludes
      rcases goes_bind.mp concludes with
        ⟨waiting, ending, ended, _, rfl, waited, concluded⟩ |
          ⟨failure, waited, rfl⟩
      · obtain ⟨rfl, rfl, rfl⟩ := goes_pure.mp concluded
        rw [List.append_nil]
        exact ⟨forksIn_of_waitForLaunched (get?_add_self ..) waited, .ok ended,
          waited, rfl⟩
      · exact ⟨forksIn_of_waitForLaunched (get?_add_self ..) waited,
          .error failure, waited, rfl⟩

/-- The job that a pipeline is given. -/
structure Registers (before : JobTable) (group : Pid) (pids : List Pid)
    (leader : Pid) (job : Job) (table : JobTable) : Prop where
  free : before.get? job.serial = none
  found : table.get? job.serial = some job
  group : job.group = group
  pids : job.pids = pids
  leader : job.leader = leader
  elsewhere : ∀ key, key ≠ job.serial →
    table.unmarked? key = before.unmarked? key

theorem registers_add (table : JobTable) (group : Pid) {pids : List Pid}
    (line : String) {leader : Pid} (isLeader : pids.head? = some leader) :
    Registers table group pids leader
      (remarked table.nextSerial
        (Job.launched group table.nextSerial pids line false))
      (table.add group pids line false).2 := by
  have plain :=
    (Job.launched group table.nextSerial pids line false).unmarked_remarked
    table.nextSerial
  have members : (remarked table.nextSerial
      (Job.launched group table.nextSerial pids line false)).pids = pids := by
    simp
  have newSerial : (remarked table.nextSerial
      (Job.launched group table.nextSerial pids line false)).serial =
      table.nextSerial := by
    simp
  refine ⟨?_, ?_, (congrArg Job.group plain :), members, ?_,
    fun key different => ?_⟩
  · simp
  · simp
  · rw [Job.leader, members, List.headD_eq_head?_getD, isLeader]
    rfl
  · rw [newSerial] at different
    rw [unmarked?, get?_add, if_neg different, Option.map_map, unmarked?]
    exact Option.map_congr fun job _ => job.unmarked_remarked table.nextSerial

section NewJob

variable {launches : List StageLaunch} {rest : List Exchange} {pids : List Pid}
  {group : Pid} {line : String} {waited : Except Failure WaitOutcome}
  {tell : Pid → ProcessEnd → WaitAnswer} {ends : Pid → ProcessEnd}

/-- The status of a pipeline whose processes all come to an end with a name is
that of its last stage. -/
theorem status_of_named (consistent : before.jobs.Consistent)
    (distinct : pids.Nodup) (free : ∀ pid ∈ pids, before.jobs.owner? pid = none)
    (members : launches.filterMap StageLaunch.pid? = pids)
    (goes : (waitForLaunched before.jobs.nextSerial).Goes
      { before with jobs := (before.jobs.add group pids line false).2 }
      rest waited after)
    (tells : TellsEnds tell) (awaits : AwaitEnds tell ends (heardIn rest))
    (named : ∀ pid ∈ pids, (ends pid).state? ≠ none) {last : StageLaunch}
    (isLast : launches.getLast? = some last) :
    (waited.map fun ended =>
      (launches.foldl Launched.extend .nothing).failure.getD ended.status) =
        .ok (last.answer ends) := by
  obtain ⟨waiting, waits, heard, _⟩ := goes_waitForLaunched goes
  rw [heard] at awaits
  obtain ⟨job, found, pidsOf, allLive, _⟩ :=
    exists_get?_add before.jobs group pids line false
  obtain ⟨status, rfl, ofLast⟩ := exited_of_goes_waitFor
    (consistent.add group line false distinct free) found
    (allLive.trans pidsOf.symm) waits tells awaits (pidsOf.symm ▸ named)
  rw [pidsOf, ← members] at ofLast
  exact congrArg Except.ok (answer_eq isLast ofLast)

/-- The job of a pipeline in which a process ends without a name stays
behind. -/
theorem failed_of_nameless (consistent : before.jobs.Consistent)
    (distinct : pids.Nodup) (free : ∀ pid ∈ pids, before.jobs.owner? pid = none)
    (goes : (waitForLaunched before.jobs.nextSerial).Goes
      { before with jobs := (before.jobs.add group pids line false).2 }
      rest waited after)
    (tells : TellsEnds tell) (awaits : AwaitEnds tell ends (heardIn rest))
    (nameless : ∃ pid ∈ pids, (ends pid).state? = none) :
    (∃ errno, waited = .error (.system errno)) ∧
      ∃ left, after.jobs.get? before.jobs.nextSerial = some left ∧
        left.pids = pids ∧ left.state = .running ∧
        ∀ pid ∈ pids, (ends pid).state? = none → pid ∈ left.livePids := by
  obtain ⟨waiting, waits, heard, _⟩ := goes_waitForLaunched goes
  rw [heard] at awaits
  obtain ⟨job, found, pidsOf, allLive, running⟩ :=
    exists_get?_add before.jobs group pids line false
  have left :=
    failed_of_goes_waitFor (consistent.add group line false distinct free)
    found running (allLive.trans pidsOf.symm) waits tells awaits
    (pidsOf.symm ▸ nameless)
  rwa [pidsOf] at left

end NewJob

/-- A pipeline is tracked by the stages that were launched.  It answers for its
last one exactly where the end of each of its processes has a name; where one
has none, it fails, and its job is left behind as if that process ran on.  Each
stage reads the pipe that the stage before it writes, and where that stage has
no child nothing is in the pipe. -/
theorem pipeline_answers_for_last_iff {pipeline : Pipeline}
    {outcome : Except Failure Int} (consistent : before.jobs.Consistent)
    (forks : ¬pipeline.RunsInShell)
    (goes : (runPipeline false pipeline).Goes before exchanges outcome after)
    (piped : ∀ exchange ∈ exchanges, exchange.lacksPipe = false)
    (distinct : ((forksIn exchanges).map Prod.snd).Nodup)
    (free : ∀ pid ∈ (forksIn exchanges).map Prod.snd,
      before.jobs.owner? pid = none) :
    ∃ launches rest pids,
      exchanges = launches.flatMap StageLaunch.exchanges ++ rest ∧
      launches.map StageLaunch.command = pipeline.stages ∧
      pids = launches.filterMap StageLaunch.pid? ∧
      (forksIn exchanges).map Prod.snd = pids ∧
      Chain before false none none launches ∧
      (∀ launch ∈ launches, launch.pid? = none →
        ∀ ends, launch.pipe = some ends → LeftEmpty ends launch.exchanges) ∧
      (pids = [] → rest = [] ∧ after = before ∧
        ∀ last, launches.getLast? = some last →
          ∃ failure, last.outcome = .error failure ∧
            outcome = .ok failure.status) ∧
      (∀ leader, pids.head? = some leader → ∃ job waiting waited,
        Registers before.jobs (jobGroup before.terminal leader) pids leader job
          waiting.jobs ∧
        (waitForLaunched job.serial).Goes waiting rest waited after) ∧
      (∀ tell ends, TellsEnds tell →
        AwaitEnds tell ends (heardIn exchanges) →
        (∀ last, launches.getLast? = some last →
          (outcome = .ok (last.answer ends) ↔
            ∀ pid ∈ pids, (ends pid).state? ≠ none)) ∧
        ((∃ pid ∈ pids, (ends pid).state? = none) →
          (∃ errno, outcome = .error (.system errno)) ∧
          ∃ left, after.jobs.get? before.jobs.nextSerial = some left ∧
            left.pids = pids ∧ left.state = .running ∧
            ∀ pid ∈ pids, (ends pid).state? = none → pid ∈ left.livePids)) ∧
      (∀ {wiring : Wiring} {wired : List Exchange},
        (Stage.wire wiring).Goes wired (.ok ()) →
        wired.map Sigma.fst =
          (wiring.input.toList.map fun source =>
            .duplicate source .standardInput) ++
            (wiring.output.toList.map fun source =>
              .duplicate source .standardOutput) ++
            wiring.redirections.map fun pair => .duplicate pair.2 pair.1) := by
  obtain ⟨launches, rest, rfl, commands, chain, childless, concluded⟩ :=
    goes_runJob piped (goes_runPipeline forks goes)
  have heard : heardIn (launches.flatMap StageLaunch.exchanges ++ rest) =
      heardIn rest := by
    simp [chain.heardIn_eq_nil]
  rw [heard]
  have children : (forksIn (launches.flatMap StageLaunch.exchanges ++ rest)).map
      Prod.snd = launches.filterMap StageLaunch.pid? := by
    simp [childless, chain.pids_forksIn]
  rw [children] at distinct free
  refine ⟨launches, rest, _, rfl, commands, rfl, children, chain,
    ?_, ?_, ?_, ?_, Stage.goes_wire⟩
  · intro launch member failed ends pipe
    obtain ⟨_, starts⟩ := chain.exists_starts launch member
    exact starts.leftEmpty failed pipe
  · intro nobody
    rw [nobody] at concluded
    obtain ⟨rfl, rfl, rfl⟩ := concluded
    refine ⟨rfl, rfl, fun last isLast => ?_⟩
    have failed : last.pid? = none :=
      List.filterMap_eq_nil_iff.mp nobody last (List.mem_of_getLast? isLast)
    cases ended : last.outcome with
    | ok pid =>
        rw [StageLaunch.pid?, ended] at failed
        cases failed
    | error failure =>
        refine ⟨failure, rfl, ?_⟩
        rw [failure_of_getLast? isLast, StageLaunch.failureStatus?, ended]
        rfl
  · intro leader isLeader
    rw [isLeader] at concluded
    obtain ⟨waited, goesOn, _⟩ := concluded
    have registers :=
      registers_add before.jobs (jobGroup before.terminal leader)
      pipeline.display isLeader
    refine ⟨_, { before with jobs := _ }, waited, registers, ?_⟩
    rwa [serial_remarked]
  · intro tell ends tells awaits
    cases head : (launches.filterMap StageLaunch.pid?).head? with
    | none =>
        have nobody := List.head?_eq_none_iff.mp head
        rw [head] at concluded
        obtain ⟨_, _, rfl⟩ := concluded
        rw [nobody]
        refine ⟨fun last isLast => iff_of_true ?_ (List.forall_mem_nil _), ?_⟩
        · refine congrArg Except.ok (answer_eq isLast fun pid isLastPid => ?_)
          rw [nobody] at isLastPid
          cases isLastPid
        · rintro ⟨_, member, _⟩
          cases member
    | some leader =>
        rw [head] at concluded
        obtain ⟨waited, goesOn, rfl⟩ := concluded
        have left :=
          failed_of_nameless consistent distinct free goesOn tells awaits
        refine ⟨fun last isLast =>
          ⟨fun answers pid member unknown => ?_, fun named =>
            status_of_named consistent distinct free rfl goesOn tells
              awaits named isLast⟩, fun nameless => ?_⟩
        · obtain ⟨⟨errno, rfl⟩, _⟩ := left ⟨pid, member, unknown⟩
          cases answers
        · obtain ⟨⟨errno, rfl⟩, leftBehind⟩ := left nameless
          exact ⟨⟨errno, rfl⟩, leftBehind⟩

def idleShell : Session := .fresh 50 "/" .empty

def bareCommand (name : String) : Command :=
  { arguments := [name], redirections := [], builtin := false }

/-- Three stages, of which the second one gets no child. -/
def gappedPipeline : Pipeline :=
  { after := .none, stages := ["jobs", "history", "pwd"].map bareCommand }

def gappedLaunches : List StageLaunch :=
  [{ command := bareCommand "jobs", input := none, pipe := some (10, 11)
     attempt := [⟨.fork (.stage idleShell (bareCommand "jobs") none
       { input := none, output := some 11, redirections := [] } none false),
       .ok 7⟩, ⟨.joinGroup 7 7, .ok ()⟩]
     outcome := .ok 7, report := [] },
   { command := bareCommand "history", input := some 10, pipe := some (12, 13)
     attempt := [⟨.fork (.stage idleShell (bareCommand "history") none
       { input := some 10, output := some 13,
         redirections := [] } (some 7) false), .error ⟨11⟩⟩]
     outcome := .error (.system ⟨11⟩)
     report := [⟨.write .standardError
       ("aspsh: " ++ (Failure.system ⟨11⟩).message ++ "\n").toUTF8, .ok ()⟩] },
   { command := bareCommand "pwd", input := some 12, pipe := none
     attempt := [⟨.fork (.stage idleShell (bareCommand "pwd") none
       { input := some 12, output := none, redirections := [] } (some 7) false),
       .ok 8⟩, ⟨.joinGroup 8 7, .ok ()⟩]
     outcome := .ok 8, report := [] }]

def gappedAnswers : List (Pid × WaitAnswer) :=
  [(7, .changed 7 (.exited 0)), (8, .changed 8 (.killed .kill))]

def gappedExchanges : List Exchange :=
  gappedLaunches.flatMap StageLaunch.exchanges ++
    (⟨.setForeground (some 7), ()⟩ :: waits gappedAnswers ++
      [⟨.setForeground none, ()⟩])

def gappedTable : JobTable :=
  (idleShell.jobs.add 7 [7, 8] gappedPipeline.display false).2

def gappedEnded : Session :=
  { idleShell with
    jobs := (((gappedTable.broughtForward 1 false).recordAnswers
      gappedAnswers).remove 1).2 }

theorem goes_gappedPipeline :
    (runPipeline false gappedPipeline).Goes idleShell gappedExchanges
      (.ok 137) gappedEnded :=
  goes_of_supplies
    { pipes := [.ok (10, 11), .ok (12, 13)]
      children := [.ok 7, .error ⟨11⟩, .ok 8]
      answers := gappedAnswers.map Prod.snd } rfl

/-- How the two processes end. -/
def gappedEnds (pid : Pid) : ProcessEnd :=
  if pid = 8 then .killed 9 else .exited 0

theorem awaitEnds_gapped :
    AwaitEnds Machine.answerOfEnd gappedEnds (heardIn gappedExchanges) := by
  have heard : heardIn gappedExchanges = gappedAnswers := rfl
  rw [heard]
  intro entry listed
  obtain rfl | rfl : entry = _ ∨ entry = _ := by
    simpa [gappedAnswers] using listed
  · exact .told
  · exact .told

/-- The signal that ends the last process is the status, and the failure in the
middle is not. -/
theorem pipeline_answers_for_last_iff_gapped :
    idleShell.jobs.Consistent ∧ ¬gappedPipeline.RunsInShell ∧
    (runPipeline false gappedPipeline).Goes idleShell gappedExchanges (.ok 137)
      gappedEnded ∧
    (∀ exchange ∈ gappedExchanges, exchange.lacksPipe = false) ∧
    (forksIn gappedExchanges).map Prod.snd = [7, 8] ∧
    (∀ pid ∈ (forksIn gappedExchanges).map Prod.snd,
      idleShell.jobs.owner? pid = none) ∧
    TellsEnds Machine.answerOfEnd ∧
    AwaitEnds Machine.answerOfEnd gappedEnds (heardIn gappedExchanges) ∧
    ∃ launches last job waiting,
      launches.map StageLaunch.command = gappedPipeline.stages ∧
      Chain idleShell false none none launches ∧
      launches.getLast? = some last ∧ last.answer gappedEnds = 137 ∧
      Registers idleShell.jobs 7 [7, 8] 7 job waiting := by
  have forks : ¬gappedPipeline.RunsInShell := by
    rintro ⟨command, stages, _⟩
    cases stages
  have piped : ∀ exchange ∈ gappedExchanges,
      exchange.lacksPipe = false := by decide
  have pids : (forksIn gappedExchanges).map Prod.snd = [7, 8] := rfl
  have free : ∀ pid ∈ (forksIn gappedExchanges).map Prod.snd,
      idleShell.jobs.owner? pid = none := by
    decide
  obtain ⟨launches, rest, members, _, commands, _, children, chain, _,
    _, registered, statuses, _⟩ :=
    pipeline_answers_for_last_iff consistent_empty forks
      goes_gappedPipeline piped (by decide) free
  obtain rfl := pids.symm.trans children
  obtain ⟨job, waiting, _, registers, _⟩ := registered 7 rfl
  obtain ⟨last, isLast⟩ := exists_last commands (List.cons_ne_nil _ _)
  obtain ⟨status, _⟩ := statuses _ _ tellsEnds_answerOfEnd awaitEnds_gapped
  have answers := (status last isLast).mpr (by decide)
  exact ⟨consistent_empty, forks, goes_gappedPipeline, piped, pids, free,
    tellsEnds_answerOfEnd, awaitEnds_gapped, launches, last, job, _,
    commands, chain, isLast, (Except.ok.inj answers).symm, registers⟩

/-- One stage, which is ended by a signal without a name. -/
def namelessPipeline : Pipeline :=
  { after := .none
    stages :=
      [{ arguments := ["/bin/sh", "-c", "kill -34 $$"], redirections := []
         builtin := false }] }

def namelessAnswers : List (Pid × WaitAnswer) :=
  [(7, Machine.answerOfEnd 7 (.killed 34))]

/-- The end by such a signal is no status: the pipeline fails. -/
theorem not_pipeline_answers_for_last :
    ¬∀ (pipeline : Pipeline) (before after : Session)
      (exchanges : List Exchange)
      (outcome : Except Failure Int) (ends : Pid → ProcessEnd),
      before.jobs.Consistent → ¬pipeline.RunsInShell →
      (runPipeline false pipeline).Goes before exchanges outcome after →
      (∀ exchange ∈ exchanges, exchange.lacksPipe = false) →
      ((forksIn exchanges).map Prod.snd).Nodup →
      (∀ pid ∈ (forksIn exchanges).map Prod.snd,
        before.jobs.owner? pid = none) →
      AwaitEnds Machine.answerOfEnd ends (heardIn exchanges) →
      ∃ (launches : List StageLaunch) (rest : List Exchange),
        exchanges = launches.flatMap StageLaunch.exchanges ++ rest ∧
        launches.map StageLaunch.command = pipeline.stages ∧
        ∀ last, launches.getLast? = some last →
          outcome = .ok (last.answer ends) := by
  intro all
  have goes : (runPipeline false namelessPipeline).Goes idleShell _
      (.error (.system .invalidArgument)) _ :=
    goes_of_supplies
      { children := [.ok 7], answers := namelessAnswers.map Prod.snd } rfl
  have forks : ¬namelessPipeline.RunsInShell := by
    rintro ⟨command, stages, builtin⟩
    cases stages
    cases builtin
  obtain ⟨launches, _, _, commands, answers⟩ :=
    all namelessPipeline idleShell _ _ _
    (fun _ => .killed 34) consistent_empty forks goes (by decide) (by decide)
    (by decide) fun entry listed => by
      obtain rfl := List.mem_singleton.mp
        (show entry ∈ namelessAnswers from listed)
      exact .told
  obtain ⟨last, isLast⟩ := exists_last commands (List.cons_ne_nil _ _)
  cases answers last isLast

end Shell

end JobShell
