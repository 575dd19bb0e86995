import JobShell.Proofs.Job.Reaping

/-!
# How a job leaves the table

A job stays in the table, under its serial and with its processes, until it is
removed by name, waited for to its end, or found finished by a look at the
processes.  `Stays` follows one job over a run of calls.
-/

namespace JobShell

namespace JobTable

theorem Unreported.waited {table next : JobTable} {serial : Nat} {resume : Bool}
    {outcome : Except Failure WaitOutcome} (unreported : table.Unreported)
    (waited : Waited serial resume table outcome next) : next.Unreported := by
  have keeps : ∀ job : Job, job.reported ≠ .done →
      (Shell.toForeground resume job).reported ≠ .done := by
    intro job live
    cases resume with
    | true => nofun
    | false => exact live
  have forward : (table.broughtForward serial resume).Unreported :=
    (unreported.update serial keeps).makeCurrent serial
  cases waited with
  | unknown absent => exact unreported
  | failed failure known records => exact forward.records records
  | finished known records found done =>
      exact (forward.records records).remove serial
  | stopped known records found live =>
      exact (forward.records records).update serial fun _ _ => nofun

theorem Step.sound {table next : JobTable} (step : Step table next)
    (sound : table.Sound) :
    next.Sound := by
  refine ⟨sound.consistent.of_changes step.changes, ?_⟩
  have unreported := sound.unreported
  cases step with
  | add group pids command background distinct free =>
      exact unreported.add group pids command background
  | remove serial => exact unreported.remove serial
  | record pid state => exact unreported.record pid state
  | takeIn answers => exact (reaps sound answers).unreported
  | reap ends =>
      obtain ⟨answers, _, _, rfl⟩ := Shell.mayEnd_reap.mp ends
      exact (reaps sound answers).unreported
  | waitFor ends => exact unreported.waited (Shell.waited_of_mayEnd ends)
  | @resumeBackground before after serial outcome ends =>
      rcases Shell.jobs_of_resumeBackground ends with same | ⟨_, goesOn⟩
      · rwa [same]
      · rw [goesOn]
        apply Unreported.makeCurrent
        exact unreported.update serial fun _ _ => nofun
  | signalJob ends => rwa [Shell.session_of_signalJob ends]
  | hangUpAll ends => rwa [Shell.session_of_hangUpAll ends]

theorem Reachable.sound {table : JobTable}
    (reachable : Reachable table) : table.Sound := by
  induction reachable with
  | refl => exact ⟨consistent_empty, nofun⟩
  | tail _ step induction => exact step.sound induction

end JobTable

/-- The job at a later time: what its launch has settled does not change. -/
structure Job.Continues (job later : Job) : Prop where
  group : later.group = job.group
  serial : later.serial = job.serial
  command : later.command = job.command
  pids : later.pids = job.pids

namespace Job.Continues

variable {job later last : Job}

theorem refl (job : Job) : job.Continues job := ⟨rfl, rfl, rfl, rfl⟩

theorem trans (first : job.Continues later) (second : later.Continues last) :
    job.Continues last where
  group := second.group.trans first.group
  serial := second.serial.trans first.serial
  command := second.command.trans first.command
  pids := second.pids.trans first.pids

theorem of_unmarked (same : later.unmarked = job.unmarked) :
    job.Continues later where
  group := (congrArg Job.group same :)
  serial := (congrArg Job.serial same :)
  command := (congrArg Job.command same :)
  pids := (congrArg Job.pids same :)

theorem record (job : Job) (pid : Pid) (state : ProcessState) :
    job.Continues (job.record pid state) :=
  ⟨rfl, rfl, rfl, job.pids_record pid state⟩

theorem continued (job : Job) : job.Continues job.continued :=
  ⟨rfl, rfl, rfl, job.adjusts_continued.pids⟩

theorem toForeground (resume : Bool)
    (job : Job) : job.Continues (Shell.toForeground resume job) := by
  cases resume with
  | false => exact ⟨rfl, rfl, rfl, rfl⟩
  | true => exact (continued job).trans ⟨rfl, rfl, rfl, rfl⟩

end Job.Continues

namespace JobTable

def Holds (table : JobTable) (serial : Nat) (job : Job) : Prop :=
  ∃ later, table.get? serial = some later ∧ job.Continues later

section Holds

variable {table next : JobTable} {serial : Nat} {job : Job}

theorem holds_of_get? (found : table.get? serial = some job) :
    table.Holds serial job :=
  ⟨job, found, .refl job⟩

theorem Holds.update (holds : table.Holds serial job) (key : Nat)
    {change : Job → Job} (continues : ∀ job : Job, job.Continues (change job)) :
    (table.update key change).Holds serial job := by
  obtain ⟨later, found, sameJob⟩ := holds
  rw [Holds, get?_update, found]
  refine ⟨_, rfl, ?_⟩
  dsimp only
  split
  · exact sameJob.trans (continues later)
  · exact sameJob

theorem Holds.of_unmarked? (holds : table.Holds serial job)
    (same : next.unmarked? serial = table.unmarked? serial) :
    next.Holds serial job := by
  obtain ⟨later, found, sameJob⟩ := holds
  rw [unmarked?, unmarked?, found] at same
  obtain ⟨last, foundLast, plain⟩ := Option.map_eq_some_iff.mp same
  exact ⟨last, foundLast, sameJob.trans (.of_unmarked plain)⟩

theorem Holds.makeCurrent (holds : table.Holds serial job) (key : Nat) :
    (table.makeCurrent key).Holds serial job :=
  holds.of_unmarked? (unmarked?_makeCurrent table key serial)

theorem Holds.remove (holds : table.Holds serial job) {key : Nat}
    (different : serial ≠ key) :
    (table.remove key).2.Holds serial job := by
  apply holds.of_unmarked?
  rw [unmarked?_remove, if_neg different]

theorem Holds.record (holds : table.Holds serial job) (pid : Pid)
    (state : ProcessState) :
    (table.record pid state).Holds serial job := by
  obtain ⟨later, found, sameJob⟩ := holds
  rcases get?_record_cases table pid state serial with same | recorded
  · exact ⟨later, same.trans found, sameJob⟩
  · rw [found] at recorded
    exact ⟨_, recorded, sameJob.trans (.record later pid state)⟩

theorem Holds.records (holds : table.Holds serial job)
    (records : Records table next) :
    next.Holds serial job := by
  have kept : ∀ (noted : JobTable) (pid : Pid) (state : ProcessState),
      noted.Holds serial job → (noted.record pid state).Holds serial job :=
    fun _ pid state holds => holds.record pid state
  exact records.invariant kept holds

theorem Holds.add (holds : table.Holds serial job) (group : Pid)
    (pids : List Pid) (command : String) (background : Bool) :
    (table.add group pids command background).2.Holds serial job := by
  obtain ⟨later, found, sameJob⟩ := holds
  have old : serial ≠ table.nextSerial := by
    intro new
    rw [new, get?_nextSerial] at found
    cases found
  rw [Holds, get?_add, if_neg old, found]
  exact ⟨_, rfl,
    sameJob.trans (.of_unmarked (later.unmarked_remarked table.nextSerial))⟩

theorem get?_remove_self (table : JobTable) (serial : Nat) :
    (table.remove serial).2.get? serial = none := by
  rw [← Option.map_eq_none_iff, ← unmarked?, unmarked?_remove, if_pos rfl]

end Holds

/-- A call with its arguments and with what the system and the call answered. -/
inductive Operation where
  | add (group : Pid) (pids : List Pid) (command : String) (background : Bool)
  | remove (serial : Nat)
  | record (pid : Pid) (state : ProcessState)
  | reap (answers : List (Pid × WaitAnswer))
  | waitFor (serial : Nat) (resume : Bool)
      (outcome : Except Failure WaitOutcome)
  | resumeBackground (serial : Nat) (outcome : Except Failure Job)

inductive Performs : JobTable → Operation → JobTable → Prop where
  | add {table : JobTable} {group : Pid} {pids : List Pid} {command : String}
      {background : Bool} (distinct : pids.Nodup)
      (free : ∀ pid ∈ pids, table.owner? pid = none) :
      Performs table (.add group pids command background)
        (table.add group pids command background).2
  | remove {table : JobTable} (serial : Nat) :
      Performs table (.remove serial) (table.remove serial).2
  | record {table : JobTable} (pid : Pid) (state : ProcessState) :
      Performs table (.record pid state) (table.record pid state)
  | reap {table : JobTable} (answers : List (Pid × WaitAnswer)) :
      Performs table (.reap answers) (table.reap answers).2
  | waitFor {before after : Session} {serial : Nat} {resume : Bool}
      {outcome : Except Failure WaitOutcome}
      (ends : (Shell.waitFor serial resume).MayEnd before outcome after) :
      Performs before.jobs (.waitFor serial resume outcome) after.jobs
  | resumeBackground {before after : Session} {serial : Nat}
      {outcome : Except Failure Job}
      (ends : (Shell.resumeBackground serial).MayEnd before outcome after) :
      Performs before.jobs (.resumeBackground serial outcome) after.jobs

/-- Whether a call on the table takes a job out of it. -/
def Operation.Removes (table : JobTable) (serial : Nat) : Operation → Prop
  | .remove other => other = serial
  | .waitFor other _ outcome =>
    other = serial ∧ ∃ status, outcome = .ok (.exited status)
  | .reap answers =>
    ∃ job, (table.recordAnswers answers).get? serial = some job ∧
      ∀ process ∈ job.processes, process.state.isFinished = true
  | .add .. | .record .. | .resumeBackground .. => False

section Operation

variable {table next : JobTable} {operation : Operation}
  {serial : Nat} {job : Job}

theorem Performs.step (performs : Performs table operation next) :
    Step table next := by
  cases performs with
  | add distinct free => exact .add _ _ _ _ distinct free
  | remove serial => exact .remove serial
  | record pid state => exact .record pid state
  | reap answers => exact .takeIn answers
  | waitFor ends => exact .waitFor ends
  | resumeBackground ends => exact .resumeBackground ends

/-- A look takes a job out that it finds finished, and keeps every other one. -/
theorem Reaps.removes_or_holds {recorded : JobTable} {notices : List Job}
    (reaps : Reaps recorded notices next) (holds : recorded.Holds serial job) :
    ((∃ later, recorded.get? serial = some later ∧
        ∀ process ∈ later.processes, process.state.isFinished = true) ∧
      next.get? serial = none) ∨
    ((¬∃ later, recorded.get? serial = some later ∧
        ∀ process ∈ later.processes, process.state.isFinished = true) ∧
      next.Holds serial job) := by
  obtain ⟨later, found, sameJob⟩ := holds
  by_cases finished : ∀ process ∈ later.processes,
    process.state.isFinished = true
  · exact .inl ⟨⟨later, found, finished⟩,
      (reaps.removed serial later found).mpr finished⟩
  · right
    constructor
    · rintro ⟨other, foundOther, finishedOther⟩
      cases found.symm.trans foundOther
      exact finished finishedOther
    · have stays : next.get? serial ≠ none := by
        rwa [Ne, reaps.removed serial later found]
      obtain ⟨left, foundLeft⟩ := Option.ne_none_iff_exists'.mp stays
      obtain ⟨before, foundBefore, same⟩ := reaps.kept serial left foundLeft
      cases found.symm.trans foundBefore
      have settled : later.Continues later.settled := ⟨rfl, rfl, rfl, rfl⟩
      exact ⟨left, foundLeft, sameJob.trans (settled.trans (.of_unmarked same))⟩

theorem Waited.removes_or_holds {waitedFor : Nat} {resume : Bool}
    {outcome : Except Failure WaitOutcome}
    (waited : Waited waitedFor resume table outcome next)
    (holds : table.Holds serial job) :
    ((waitedFor = serial ∧ ∃ status, outcome = .ok (.exited status)) ∧
      next.get? serial = none) ∨
    ((¬(waitedFor = serial ∧ ∃ status, outcome = .ok (.exited status))) ∧
      next.Holds serial job) := by
  have forward : (table.broughtForward waitedFor resume).Holds serial job :=
    (holds.update waitedFor (Job.Continues.toForeground resume)).makeCurrent
      waitedFor
  cases waited with
  | unknown absent => exact .inr ⟨nofun, holds⟩
  | failed failure known records => exact .inr ⟨nofun, forward.records records⟩
  | @finished noted left known records found done =>
      by_cases same : waitedFor = serial
      · subst same
        exact .inl ⟨⟨rfl, left.exitStatus, rfl⟩,
          get?_remove_self noted waitedFor⟩
      · have kept := (forward.records records).remove (Ne.symm same)
        exact .inr ⟨fun both => same both.1, kept⟩
  | @stopped noted _ known records found live =>
      have kept : (noted.leftStopped waitedFor).Holds serial job :=
        (forward.records records).update waitedFor fun _ => ⟨rfl, rfl, rfl, rfl⟩
      exact .inr ⟨nofun, kept⟩

/-- A call that removes a job leaves none under its serial, and any other call
keeps the job. -/
theorem Performs.removes_or_holds (performs : Performs table operation next)
    (sound : table.Sound) (holds : table.Holds serial job) :
    (operation.Removes table serial ∧ next.get? serial = none) ∨
      (¬operation.Removes table serial ∧ next.Holds serial job) := by
  cases performs with
  | add distinct free => exact .inr ⟨nofun, holds.add _ _ _ _⟩
  | remove other =>
      by_cases same : other = serial
      · subst same
        exact .inl ⟨rfl, get?_remove_self table other⟩
      · exact .inr ⟨same, holds.remove (Ne.symm same)⟩
  | record pid state => exact .inr ⟨nofun, holds.record pid state⟩
  | reap answers =>
      have noted := holds.records (records_recordAnswers table answers)
      exact (reaps sound answers).removes_or_holds noted
  | waitFor ends => exact (Shell.waited_of_mayEnd ends).removes_or_holds holds
  | resumeBackground ends =>
      refine .inr ⟨nofun, ?_⟩
      rcases Shell.jobs_of_resumeBackground ends with same | ⟨_, goesOn⟩
      · rwa [same]
      · rw [goesOn]
        apply Holds.makeCurrent
        apply holds.update
        intro job
        exact (Job.Continues.continued job).trans ⟨rfl, rfl, rfl, rfl⟩

end Operation

inductive Runs : JobTable → List Operation → JobTable → Prop where
  | done (table : JobTable) : Runs table [] table
  | call {table next final : JobTable} {operation : Operation}
      {operations : List Operation} (performs : Performs table operation next)
      (rest : Runs next operations final) :
      Runs table (operation :: operations) final

/-- The job is in every table of the run, and no call of it removes the job. -/
inductive Stays (serial : Nat) (job : Job) :
    JobTable → List Operation → JobTable → Prop where
  | done {table : JobTable} (holds : table.Holds serial job) :
      Stays serial job table [] table
  | call {table next final : JobTable} {operation : Operation}
      {operations : List Operation} (holds : table.Holds serial job)
      (performs : Performs table operation next)
      (keeps : ¬operation.Removes table serial)
      (rest : Stays serial job next operations final) :
      Stays serial job table (operation :: operations) final

/-- The job is in every table of the run up to a call that removes it. -/
def Leaves (serial : Nat) (job : Job) (table : JobTable)
    (operations : List Operation) (final : JobTable) : Prop :=
  ∃ earlier operation later last next,
    operations = earlier ++ operation :: later ∧
    Stays serial job table earlier last ∧ Performs last operation next ∧
    operation.Removes last serial ∧ next.get? serial = none ∧
    Runs next later final

theorem Runs.stays_or_leaves {table final : JobTable}
    {operations : List Operation} (runs : Runs table operations final)
    (sound : table.Sound) {serial : Nat} {job : Job}
    (holds : table.Holds serial job) :
    Stays serial job table operations final ∨
    Leaves serial job table operations final := by
  induction runs with
  | done table => exact .inl (.done holds)
  | @call table next final operation operations performs rest induction =>
      rcases performs.removes_or_holds sound holds with ⟨removes, gone⟩ |
        ⟨keeps, stillHolds⟩
      · -- what the later calls do under the serial is about another job
        exact .inr ⟨[], operation, operations, table, next, rfl, .done holds,
          performs, removes, gone, rest⟩
      · rcases induction (performs.step.sound sound) stillHolds with
          stays | leaves
        · exact .inl (.call holds performs keeps stays)
        · obtain ⟨earlier, removal, later, last, after, rfl, stays, removed⟩ :=
            leaves
          exact .inr ⟨operation :: earlier, removal, later, last, after, rfl,
            .call holds performs keeps stays, removed⟩

/-- A look takes exactly the finished jobs out, tells once of what is new, and
leaves nothing to tell; nothing else than this, a removal, or a wait to the end
takes a job out of a table. -/
theorem reaps_and_stays_or_leaves {table : JobTable} (sound : table.Sound) :
    (∀ {reached : JobTable}, Reachable reached → reached.Sound) ∧
    (∀ {before after : Session} {outcome : Except Failure (List Job)},
      before.jobs = table →
      (Shell.reap.MayEnd before outcome after ↔
        ∃ answers : List (Pid × WaitAnswer),
          answers.map Prod.fst = table.registered ∧
          outcome = .ok (table.reap answers).1 ∧
          after = { before with jobs := (table.reap answers).2 })) ∧
    (∀ answers : List (Pid × WaitAnswer),
      Reaps (table.recordAnswers answers) (table.reap answers).1
        (table.reap answers).2 ∧
      ∀ again : List (Pid × WaitAnswer),
        (table.reap answers).2.recordAnswers again = (table.reap answers).2 →
          (table.reap answers).2.reap again = ([], (table.reap answers).2)) ∧
    (∀ {operations : List Operation} {final : JobTable},
      Runs table operations final →
      ∀ {serial : Nat} {job : Job}, table.get? serial = some job →
        Stays serial job table operations final ∨
        Leaves serial job table operations final) := by
  refine ⟨Reachable.sound, ?_, ?_, ?_⟩
  · rintro before after outcome rfl
    rw [Shell.mayEnd_reap]
    simp only [Shell.mayYield_poll]
  · intro answers
    have settled := reaps sound answers
    exact ⟨settled, fun again silent => settled.reap_again silent⟩
  · intro operations final runs serial job found
    exact runs.stays_or_leaves sound (holds_of_get? found)

def twoJobs : JobTable :=
  ((empty.add 100 [100] "make" true).2.add 200 [200] "top" true).2

/-- The first job has finished, and the second one has stopped. -/
def twoNews : List (Pid × WaitAnswer) :=
  [(100, .changed 100 (.exited 0)), (200, .changed 200 (.stopped .tstp))]

theorem reaps_and_stays_or_leaves_of_twoJobs :
    twoJobs.Sound ∧ twoNews.map Prod.fst = twoJobs.registered ∧
    (twoJobs.reap twoNews).1.map (fun job => (job.serial, job.state)) =
      [(1, .done), (2, .stopped)] ∧
    Reaps (twoJobs.recordAnswers twoNews) (twoJobs.reap twoNews).1
      (twoJobs.reap twoNews).2 ∧
    (twoJobs.reap twoNews).2.reap [(200, .noChange)] =
      ([], (twoJobs.reap twoNews).2) ∧
    ∀ job ∈ twoJobs.jobs,
      Stays job.serial job twoJobs [.reap twoNews] (twoJobs.reap twoNews).2 ∨
        Leaves job.serial job twoJobs [.reap twoNews]
          (twoJobs.reap twoNews).2 := by
  have sound : twoJobs.Sound := by
    apply Reachable.sound
    exact (Relation.ReflTransGen.single
      (.add 100 [100] "make" true (by decide) (by decide))).tail
      (.add 200 [200] "top" true (by decide) (by decide))
  obtain ⟨_, _, looks, runs⟩ := reaps_and_stays_or_leaves sound
  obtain ⟨reaps, again⟩ := looks twoNews
  refine ⟨sound, by decide, by decide, reaps, again _ (by decide), ?_⟩
  intro job listed
  have found : twoJobs.get? job.serial = some job :=
    (mem_jobs_iff sound.consistent).mp listed
  exact runs (.call (.reap twoNews) (.done _)) found

end JobTable

end JobShell
