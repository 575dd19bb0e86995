import JobShell.Proofs.Execution.Openings
import JobShell.Proofs.Execution.Tracking

/-!
# Who knows of the children of a pipeline

The children of a pipeline become known when its job is entered into the table,
after all stages have been tried.  A stage that cannot be launched does not keep
the others from that.  A pipe that cannot be opened does: the launch ends there,
and the children that were made for earlier stages belong to no job.
-/

namespace JobShell

/-- The answers told of the end of the process. -/
def EndTold (heard : List (Pid × WaitAnswer)) (pid : Pid) : Prop :=
  ∃ state, lastTold heard pid = some state ∧ state.isFinished = true

/-- A job of the table has the process, and owns it until its end has been told
of; or the job that had it when it was entered has been waited for until all its
processes had ended, and is gone. -/
inductive Accounted (heard : List (Pid × WaitAnswer)) (entered table : JobTable)
    (pid : Pid) : Prop where
  | held {serial : Nat} {job : Job} (found : table.get? serial = some job)
      (member : pid ∈ job.pids)
      (owned : table.owner? pid = some serial ∨ EndTold heard pid) :
      Accounted heard entered table pid
  | gone {serial : Nat} {job : Job} (was : entered.get? serial = some job)
      (member : pid ∈ job.pids)
      (ended : ∀ other ∈ job.pids, EndTold heard other)
      (left : table.get? serial = none) :
      Accounted heard entered table pid

theorem not_endTold_nil (pid : Pid) : ¬EndTold [] pid := by
  rintro ⟨_, told, _⟩
  cases told

/-- Where nobody was waited for, only an owner can know of a process. -/
theorem not_accounted_of_unowned {entered table : JobTable} {pid : Pid}
    (unowned : table.owner? pid = none) : ¬Accounted [] entered table pid := by
  intro accounted
  cases accounted with
  | held _ _ owned =>
      rcases owned with owner | told
      · rw [unowned] at owner
        cases owner
      · exact not_endTold_nil pid told
  | gone _ member ended _ => exact not_endTold_nil pid (ended pid member)

/-- Only a call that opens a pipe can lack one. -/
theorem Exchange.piped_of_allowed {allowed : Call → Prop}
    (excluded : ¬allowed .openPipe) {exchange : Exchange}
    (isAllowed : allowed exchange.1) :
    exchange.lacksPipe = false := by
  obtain ⟨call, reply⟩ := exchange
  cases call with
  | openPipe => exact absurd isAllowed excluded
  | _ => rfl

/-- A stage that is launched, or fails otherwise, has had its pipe. -/
theorem StageLaunch.Starts.piped {launch : StageLaunch} {session : Session}
    {background : Bool} {group : Option Pid}
    (starts : launch.Starts session background group) :
    ∀ exchange ∈ launch.exchanges, exchange.lacksPipe = false := by
  intro exchange member
  simp only [StageLaunch.exchanges, List.mem_append] at member
  rcases member with ((opening | attempted) | closed) | reported
  · obtain ⟨ends, _, rfl⟩ := List.mem_map.mp opening
    rfl
  · rcases starts.attempts.calls exchange attempted with prepares |
      ⟨task, forks⟩
    · exact Exchange.piped_of_allowed id prepares
    · obtain ⟨call, reply⟩ := exchange
      cases forks
      rfl
  · exact Exchange.piped_of_allowed id
      (Shell.prepares_closings _ exchange closed)
  · obtain ⟨call, reply⟩ := exchange
    obtain ⟨bytes, written⟩ := starts.report_calls _ reported
    cases written
    rfl

namespace Shell

open JobTable

variable {before after : Session} {exchanges : List Exchange}

/-- The launch fails as a whole, and nothing is noted of what was launched
before. -/
theorem stops_without_pipe {background : Bool} {commands : List Command}
    {launched : Launched} {outcome : Except Failure Launched}
    (lacks : ∃ exchange ∈ exchanges, exchange.lacksPipe = true)
    (goes : (launchStages background commands launched).Goes before exchanges
      outcome after) :
    after = before ∧ heardIn exchanges = [] ∧
    ∃ errno, outcome = .error (.system errno) := by
  induction commands generalizing exchanges launched with
  | nil =>
      obtain ⟨rfl, _⟩ := goes_pure.mp goes
      obtain ⟨_, member, _⟩ := lacks
      cases member
  | cons command commands induction =>
      rcases goes_launchStages_cons goes with
        ⟨errno, rfl, rfl, rfl⟩ | ⟨launch, later, rfl, _, _, _, starts, goesOn⟩
      · exact ⟨rfl, heardIn_closings _, errno, rfl⟩
      · obtain ⟨exchange, member, lack⟩ := lacks
        have isLater : exchange ∈ later := by
          rcases List.mem_append.mp member with early | late
          · rw [starts.piped exchange early] at lack
            cases lack
          · exact late
        obtain ⟨rfl, silent, ended⟩ :=
          induction ⟨exchange, isLater, lack⟩ goesOn
        rw [heardIn_append, starts.heardIn_exchanges, silent]
        exact ⟨rfl, rfl, ended⟩

theorem confined_waitForLaunched (serial : Nat) :
    Confined Call.MakesNothing (waitForLaunched serial) := by
  refine .bind (confined_waitFor serial false) fun outcome => ?_
  cases outcome with
  | exited status => exact .pure _
  | stopped serial status =>
      refine .get_bind fun session => ?_
      cases session.jobs.get? serial with
      | some job =>
          exact .bind (.lift (Activity.confined_say _ _)) fun _ => .pure _
      | none => exact .pure _

theorem confined_conclude (background : Bool) (launched : Launched)
    (leader : Pid) (serial : Nat) :
    Confined Call.MakesNothing
      (conclude background launched leader serial) := by
  unfold conclude
  split
  · exact .bind (.lift (Activity.confined_say _ _)) fun _ => .pure 0
  · exact .bind (confined_waitForLaunched serial) fun _ => .pure _

/-- Behind the launch no pipe is needed. -/
theorem goes_runJob_lacking {pipeline : Pipeline} {background : Bool}
    {outcome : Except Failure Int}
    (lacks : ∃ exchange ∈ exchanges, exchange.lacksPipe = true)
    (goes : (runJob pipeline background).Goes before exchanges outcome after) :
    after = before ∧ heardIn exchanges = [] ∧
    ∃ errno, outcome = .error (.system errno) := by
  unfold runJob at goes
  rcases goes_bind.mp goes with
    ⟨launching, rest, launched, between, rfl, tried, goesOn⟩ |
      ⟨failure, tried, rfl⟩
  · exfalso
    have later : ∀ exchange ∈ rest, exchange.lacksPipe = false := by
      cases group : launched.group with
      | none =>
          rw [group] at goesOn
          obtain ⟨rfl, _⟩ := goes_pure.mp goesOn
          exact List.forall_mem_nil _
      | some leader =>
          rw [group] at goesOn
          have concludes :
              (conclude background launched leader between.jobs.nextSerial).Goes
                _ rest outcome after :=
            goes_addJob_bind.mp (goes_get_bind.mp goesOn)
          intro exchange member
          exact Exchange.piped_of_allowed id
            ((confined_conclude ..).allowed_of_goes concludes exchange member)
    obtain ⟨exchange, member, lack⟩ := lacks
    rcases List.mem_append.mp member with early | late
    · obtain ⟨_, _, _, impossible⟩ :=
        stops_without_pipe ⟨exchange, early, lack⟩ tried
      cases impossible
    · rw [later exchange late] at lack
      cases lack
  · obtain ⟨rfl, silent, errno, same⟩ := stops_without_pipe lacks tried
    cases same
    exact ⟨rfl, silent, errno, rfl⟩

section Waited

variable {serial : Nat} {job : Job}
  {heard : List (Pid × WaitAnswer)} {pid : Pid}

theorem mem_livePids_of_not_endTold (live : pid ∈ job.livePids)
    (untold : ¬EndTold heard pid) :
    pid ∈ (job.heard heard).livePids := by
  refine Job.mem_livePids_heard_of_mem live fun state told => ?_
  cases finished : state.isFinished with
  | false => rfl
  | true => exact absurd ⟨state, told, finished⟩ untold

theorem endTold_of_finished (live : pid ∈ job.livePids)
    (finished : ∀ process ∈ (job.heard heard).processes,
      process.state.isFinished = true) :
    EndTold heard pid := by
  by_contra untold
  obtain ⟨process, listed, _, alive⟩ :=
    Job.mem_livePids.mp (mem_livePids_of_not_endTold live untold)
  rw [finished process listed] at alive
  cases alive

/-- A job that stays keeps the processes whose ends were not told of. -/
theorem accounted_of_stays {entered table : JobTable} {plain : Job}
    (consistent : table.Consistent)
    (stays : table.unmarked? serial = some plain)
    (processes : plain.processes = (job.heard heard).processes)
    (live : pid ∈ job.livePids) :
    Accounted heard entered table pid := by
  obtain ⟨left, found, rfl⟩ := Option.map_eq_some_iff.mp stays
  have kept : left.processes = (job.heard heard).processes := processes
  refine .held found ?_ ?_
  · obtain ⟨process, listed, same, _⟩ := Job.mem_livePids.mp live
    rw [Job.pids, kept]
    exact List.mem_map.mpr ⟨_,
      Job.mem_processes_heard.mpr ⟨process, listed, rfl⟩, same⟩
  · by_cases told : EndTold heard pid
    · exact .inr told
    · have alive : pid ∈ left.livePids := by
        rw [Job.livePids, kept]
        exact mem_livePids_of_not_endTold live told
      exact .inl ((consistent.owned pid serial).mpr ⟨left, found, alive⟩)

/-- However the wait for a job ends, its processes are accounted for. -/
theorem accounted_of_waitFor {outcome : Except Failure WaitOutcome}
    (consistent : before.jobs.Consistent)
    (found : before.jobs.get? serial = some job)
    (goes : (waitFor serial false).Goes before exchanges outcome after)
    (about : ∀ entry ∈ heardIn exchanges, entry.2.IsAbout entry.1)
    (allLive : job.livePids = job.pids) (member : pid ∈ job.pids) :
    Accounted (heardIn exchanges) before.jobs after.jobs pid := by
  have consistentAfter : after.jobs.Consistent :=
    consistent.of_changes (waited_of_mayEnd (mayEnd_of_goes goes)).changes
  have live : pid ∈ job.livePids := allLive ▸ member
  obtain ⟨concludes, _⟩ := concludes_of_goes consistent found goes about
  cases concludes with
  | exited finished left _ =>
      refine .gone found member (fun other listed => ?_) left
      exact endTold_of_finished (allLive ▸ listed) finished
  | stopped _ _ stays => exact accounted_of_stays consistentAfter stays rfl live
  | failed _ stays => exact accounted_of_stays consistentAfter stays rfl live

end Waited

/-- The table with the job of the processes entered. -/
def entered (session : Session) (pipeline : Pipeline) (pids : List Pid)
    (background : Bool) : JobTable :=
  (session.jobs.add (jobGroup session.terminal (pids.headD 0)) pids
    pipeline.display background).2

section Entered

variable {pipeline : Pipeline} {background : Bool} {pids : List Pid} {pid : Pid}

/-- In the background the job is left as it was entered. -/
theorem accounted_of_entered {heard : List (Pid × WaitAnswer)}
    (member : pid ∈ pids) :
    Accounted heard (entered before pipeline pids background)
      (entered before pipeline pids background) pid := by
  obtain ⟨job, found, pidsOf, _⟩ :=
    exists_get?_add before.jobs _ pids pipeline.display background
  refine .held found (pidsOf ▸ member) (.inl ?_)
  simp [entered, member]

/-- Once the job is entered, its processes are accounted for whatever
happens. -/
theorem accounted_of_conclude {launched : Launched} {leader : Pid}
    {outcome : Except Failure Int} (consistent : before.jobs.Consistent)
    (distinct : pids.Nodup) (free : ∀ pid ∈ pids, before.jobs.owner? pid = none)
    (goes : (conclude background launched leader before.jobs.nextSerial).Goes
      { before with jobs := entered before pipeline pids background } exchanges
        outcome after)
    (about : ∀ entry ∈ heardIn exchanges, entry.2.IsAbout entry.1)
    (member : pid ∈ pids) :
    Accounted (heardIn exchanges)
      (entered before pipeline pids background) after.jobs pid := by
  cases background with
  | true =>
      obtain ⟨_, _, _, _, _, ended⟩ := goes_lift_bind.mp goes
      obtain ⟨_, _, rfl⟩ := goes_pure.mp ended
      exact accounted_of_entered member
  | false =>
      have waits : ∃ waiting ended,
          (waitForLaunched before.jobs.nextSerial).Goes
          { before with jobs := entered before pipeline pids false } waiting
            ended after ∧
          heardIn exchanges = heardIn waiting := by
        rcases goes_bind.mp goes with ⟨waiting, _, _, _, rfl, waited, ended⟩ |
          ⟨_, waited, _⟩
        · obtain ⟨rfl, _, rfl⟩ := goes_pure.mp ended
          rw [List.append_nil]
          exact ⟨waiting, _, waited, rfl⟩
        · exact ⟨exchanges, _, waited, rfl⟩
      obtain ⟨_, _, waited, heard⟩ := waits
      obtain ⟨waiting, waited, heardWaiting, _⟩ := goes_waitForLaunched waited
      rw [heard, heardWaiting] at about ⊢
      obtain ⟨job, found, pidsOf, livePidsOf, _⟩ :=
        exists_get?_add before.jobs _ pids pipeline.display false
      exact accounted_of_waitFor (consistent.add _ _ false distinct free) found
        waited about (livePidsOf.trans pidsOf.symm) (pidsOf ▸ member)

end Entered

/-- A builtin that runs in the shell makes no children and opens no pipes. -/
theorem childless_of_runsInShell {pipeline : Pipeline} {background : Bool}
    {outcome : Except Failure Int} (inShell : pipeline.RunsInShell)
    (goes : (runPipeline background pipeline).Goes before exchanges
      outcome after) :
    forksIn exchanges = [] ∧
    ∀ exchange ∈ exchanges, exchange.lacksPipe = false := by
  obtain ⟨command, stages, isBuiltin⟩ := inShell
  unfold runPipeline at goes
  rw [stages] at goes
  have runs : (runBuiltin command).Goes before exchanges outcome after := by
    simpa only [isBuiltin, if_true] using goes
  obtain ⟨_, _, calls, _⟩ := goes_runBuiltin runs
  let allowed (call : Call) : Prop := call.Prepares ∨ call.MakesNothing
  have calls : ∀ exchange ∈ exchanges, allowed exchange.1 := calls
  constructor
  · exact forksIn_eq_nil_of_allowed (fun _ => not_or.mpr ⟨id, id⟩) calls
  · exact fun exchange member =>
      Exchange.piped_of_allowed (not_or.mpr ⟨id, id⟩) (calls exchange member)

/-- Where no pipe has failed, all children are accounted for. -/
theorem accounted_of_piped {pipeline : Pipeline} {background : Bool}
    {outcome : Except Failure Int} (consistent : before.jobs.Consistent)
    (goes : (runJob pipeline background).Goes before exchanges outcome after)
    (piped : ∀ exchange ∈ exchanges, exchange.lacksPipe = false)
    (distinct : ((forksIn exchanges).map Prod.snd).Nodup)
    (free : ∀ pid ∈ (forksIn exchanges).map Prod.snd,
      before.jobs.owner? pid = none)
    (about : ∀ entry ∈ heardIn exchanges, entry.2.IsAbout entry.1) :
    ∀ pid ∈ (forksIn exchanges).map Prod.snd, Accounted (heardIn exchanges)
      (entered before pipeline ((forksIn exchanges).map Prod.snd) background)
        after.jobs pid := by
  obtain ⟨launches, rest, rfl, _, chain, concludes⟩ :=
    goes_runJob_launched piped goes
  have heard : heardIn (launches.flatMap StageLaunch.exchanges ++ rest) =
      heardIn rest := by
    simp [chain.heardIn_eq_nil]
  have children (childless : forksIn rest = []) :
      (forksIn (launches.flatMap StageLaunch.exchanges ++ rest)).map Prod.snd =
        launches.filterMap StageLaunch.pid? := by
    simp [childless, chain.pids_forksIn]
  rw [heard] at about ⊢
  cases head : (launches.filterMap StageLaunch.pid?).head? with
  | none =>
      rw [head] at concludes
      obtain ⟨rfl, _⟩ := concludes
      rw [children rfl, List.head?_eq_none_iff.mp head]
      exact List.forall_mem_nil _
  | some leader =>
      rw [head] at concludes
      have childless : forksIn rest = [] :=
        forksIn_eq_nil_of_allowed (fun _ => id)
          ((confined_conclude ..).allowed_of_goes concludes)
      rw [children childless] at distinct free ⊢
      have isLeader : (launches.filterMap StageLaunch.pid?).headD 0 =
          leader := by
        rw [List.headD_eq_head?_getD, head]
        rfl
      have goesOn :
          (conclude background (launches.foldl Launched.extend .nothing) leader
          before.jobs.nextSerial).Goes
          { before with
            jobs :=
              entered before pipeline
                (launches.filterMap StageLaunch.pid?) background }
          rest outcome after := by
        rw [entered, isLeader]
        exact concludes
      exact fun pid member =>
        accounted_of_conclude consistent distinct free goesOn about member

/-- Every child that a pipeline has made is accounted for, whatever else fails,
unless a pipe could not be opened after the first child had been made.  Then the
launch fails, and the shell is as it was before: no job has any of the
children. -/
theorem children_accounted_iff {pipeline : Pipeline} {background : Bool}
    {outcome : Except Failure Int} (consistent : before.jobs.Consistent)
    (goes : (runPipeline background pipeline).Goes before exchanges
      outcome after)
    (distinct : ((forksIn exchanges).map Prod.snd).Nodup)
    (free : ∀ pid ∈ (forksIn exchanges).map Prod.snd,
      before.jobs.owner? pid = none)
    (about : ∀ entry ∈ heardIn exchanges, entry.2.IsAbout entry.1) :
    ((∀ pid ∈ (forksIn exchanges).map Prod.snd, Accounted (heardIn exchanges)
        (entered before pipeline ((forksIn exchanges).map Prod.snd) background)
          after.jobs pid) ↔
      ((∃ exchange ∈ exchanges, exchange.lacksPipe = true) →
        forksIn exchanges = [])) ∧
    ((∃ exchange ∈ exchanges, exchange.lacksPipe = true) →
      after = before ∧ heardIn exchanges = [] ∧
      (∃ errno, outcome = .error (.system errno)) ∧
      ∀ pid ∈ (forksIn exchanges).map Prod.snd, after.jobs.owner? pid = none ∧
        ∀ job ∈ after.jobs.jobs, pid ∉ job.livePids) := by
  by_cases inShell : pipeline.RunsInShell
  · obtain ⟨childless, piped⟩ := childless_of_runsInShell inShell goes
    rw [childless]
    refine ⟨⟨fun _ _ => rfl, fun _ => List.forall_mem_nil _⟩, ?_⟩
    rintro ⟨exchange, member, lack⟩
    rw [piped exchange member] at lack
    cases lack
  have runs := goes_runPipeline inShell goes
  by_cases lacks : ∃ exchange ∈ exchanges, exchange.lacksPipe = true
  · obtain ⟨rfl, silent, failed⟩ := goes_runJob_lacking lacks runs
    rw [silent]
    refine ⟨⟨fun accounted _ => ?_, fun childless => ?_⟩,
      fun _ => ⟨rfl, rfl, failed, ?_⟩⟩
    · rw [← List.map_eq_nil_iff (f := Prod.snd), List.eq_nil_iff_forall_not_mem]
      intro pid member
      exact not_accounted_of_unowned (free pid member) (accounted pid member)
    · rw [childless lacks]
      exact List.forall_mem_nil _
    · intro pid member
      refine ⟨free pid member, fun job listed live => ?_⟩
      have owner := (consistent.owned pid job.serial).mpr
        ⟨job, (mem_jobs_iff consistent).mp listed, live⟩
      rw [free pid member] at owner
      cases owner
  · refine ⟨⟨fun _ lack => absurd lack lacks, fun _ => ?_⟩,
      fun lack => absurd lack lacks⟩
    have piped : ∀ exchange ∈ exchanges, exchange.lacksPipe = false := by
      intro exchange member
      exact Bool.eq_false_iff.mpr fun lack => lacks ⟨exchange, member, lack⟩
    exact accounted_of_piped consistent runs piped distinct free about

/-- Three stages in the background: one is launched, and for the second one
there is no pipe. -/
def starvedExchanges : List Exchange :=
  [⟨.openPipe, .ok (10, 11)⟩,
    ⟨.fork (.stage idleShell (bareCommand "jobs") none
      { input := none, output := some 11, redirections := [] } none true),
      .ok 7⟩,
    ⟨.joinGroup 7 7, .ok ()⟩, ⟨.close 11, ()⟩,
    ⟨.openPipe, .error .tooManyOpen⟩, ⟨.close 10, ()⟩]

theorem goes_starved :
    (runPipeline true gappedPipeline).Goes idleShell starvedExchanges
      (.error (.system .tooManyOpen)) idleShell :=
  goes_of_supplies { pipes := [.ok (10, 11), .error .tooManyOpen],
                     children := [.ok 7] } rfl

/-- One child that is accounted for where a stage has failed, and one that is
not where a pipe has. -/
theorem children_accounted_iff_gapped :
    (runPipeline false gappedPipeline).Goes idleShell gappedExchanges
      (.ok 137) gappedEnded ∧
    (forksIn gappedExchanges).map Prod.snd = [7, 8] ∧
    (∀ pid ∈ (forksIn gappedExchanges).map Prod.snd,
      Accounted (heardIn gappedExchanges)
      (entered idleShell gappedPipeline [7, 8] false) gappedEnded.jobs pid) ∧
    (runPipeline true gappedPipeline).Goes idleShell starvedExchanges
      (.error (.system .tooManyOpen)) idleShell ∧
    (forksIn starvedExchanges).map Prod.snd = [7] ∧
    idleShell.jobs.owner? 7 = none := by
  have piped : ¬∃ exchange ∈ gappedExchanges,
      exchange.lacksPipe = true := by decide
  obtain ⟨accounted, _⟩ :=
    children_accounted_iff consistent_empty goes_gappedPipeline (by decide)
    (by decide) (by decide)
  obtain ⟨_, starves⟩ :=
    children_accounted_iff consistent_empty goes_starved (by decide)
    (by decide) (by decide)
  obtain ⟨_, _, _, unowned⟩ := starves (by decide)
  exact ⟨goes_gappedPipeline, rfl,
    accounted.mpr fun lack => absurd lack piped, goes_starved, rfl,
      (unowned 7 (by decide)).1⟩

/-- A child may escape. -/
theorem not_children_accounted :
    ¬∀ (pipeline : Pipeline) (background : Bool) (before after : Session)
      (exchanges : List Exchange) (outcome : Except Failure Int),
      before.jobs.Consistent →
        (runPipeline background pipeline).Goes before exchanges outcome after →
        ((forksIn exchanges).map Prod.snd).Nodup →
        (∀ pid ∈ (forksIn exchanges).map Prod.snd,
          before.jobs.owner? pid = none) →
        (∀ entry ∈ heardIn exchanges, entry.2.IsAbout entry.1) →
          ∀ pid ∈ (forksIn exchanges).map Prod.snd,
            Accounted (heardIn exchanges)
            (entered before pipeline
              ((forksIn exchanges).map Prod.snd) background) after.jobs
            pid := by
  intro all
  have accounted :=
    all gappedPipeline true idleShell idleShell starvedExchanges _
      consistent_empty
    goes_starved (by decide) (by decide) (by decide) 7 (by decide)
  exact not_accounted_of_unowned rfl accounted

end Shell

end JobShell
