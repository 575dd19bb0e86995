import JobShell.Proofs.Job.Control
import JobShell.Proofs.Job.Live

/-!
# What can become of the job table

Everything that job control does to the table is a run of five kinds of changes.
A law of the table is proved for each kind once, and then holds of every call,
whatever the system replies.
-/

namespace JobShell

/-- The versions of a job differ at most in the states of processes that have
not finished, in the place where it runs, and in what was reported. -/
structure Job.Adjusts (job changed : Job) : Prop where
  serial : changed.serial = job.serial
  pids : changed.pids = job.pids
  livePids : changed.livePids = job.livePids
  isCurrent : changed.isCurrent = job.isCurrent
  isPrevious : changed.isPrevious = job.isPrevious

namespace JobTable

inductive Change : JobTable → JobTable → Prop where
  | add {table : JobTable} (group : Pid) (pids : List Pid) (command : String)
      (background : Bool) (distinct : pids.Nodup)
      (free : ∀ pid ∈ pids, table.owner? pid = none) :
      Change table (table.add group pids command background).2
  | remove {table : JobTable} (serial : Nat) :
      Change table (table.remove serial).2
  | record {table : JobTable} (pid : Pid) (state : ProcessState) :
      Change table (table.record pid state)
  | adjust {table : JobTable} (serial : Nat) {change : Job → Job}
      (adjusts : ∀ job : Job, job.Adjusts (change job)) :
      Change table (table.update serial change)
  | makeCurrent {table : JobTable} {serial : Nat}
      (known : (table.get? serial).isSome) :
      Change table (table.makeCurrent serial)

abbrev Changes : JobTable → JobTable → Prop := Relation.ReflTransGen Change

/-- What every change keeps, runs of changes keep. -/
theorem Changes.invariant {law : JobTable → Prop}
    (kept : ∀ {table next : JobTable}, Change table next → law table → law next)
    {table next : JobTable} (changes : Changes table next)
    (holds : law table) : law next := by
  induction changes with
  | refl => exact holds
  | tail _ change induction => exact kept change induction

theorem Records.changes {table next : JobTable} (records : Records table next) :
    Changes table next := by
  have kept : ∀ (noted : JobTable) (pid : Pid) (state : ProcessState),
      Changes table noted → Changes table (noted.record pid state) :=
    fun _ pid state changes => changes.tail (.record pid state)
  exact records.invariant kept .refl

theorem changes_settleJob (table : JobTable) (serial : Nat) :
    Changes table (table.settleJob serial).2 := by
  unfold settleJob
  split
  · exact .refl
  · next job found =>
      dsimp only
      split
      · exact .refl
      · have told : Changes table
            (table.update serial
              fun other => { other with reported := job.state }) :=
          .single (.adjust serial fun _ => ⟨rfl, rfl, rfl, rfl, rfl⟩)
        split
        · have removed := told.tail (.remove serial)
          split <;> next same => simpa only [same] using removed
        · dsimp only
          exact told.tail (.adjust serial fun _ => ⟨rfl, rfl, rfl, rfl, rfl⟩)
        · exact told

theorem changes_settleAll (serials : List Nat) (table : JobTable) :
    Changes table (table.settleAll serials).2 := by
  induction serials generalizing table with
  | nil => exact .refl
  | cons serial serials induction =>
      exact (changes_settleJob table serial).trans (induction _)

theorem changes_reap (table : JobTable) (answers : List (Pid × WaitAnswer)) :
    Changes table (table.reap answers).2 :=
  (records_recordAnswers table answers).changes.trans (changes_settleAll _ _)

end JobTable

namespace Job

theorem adjusts_continued (job : Job) : job.Adjusts job.continued where
  serial := rfl
  pids := by
    simp only [pids, continued, List.map_map]
    refine List.map_congr_left fun process _ => ?_
    simp only [Function.comp_apply]
    split <;> rfl
  livePids := by
    refine livePids_map_of_same job.processes (fun process => ?_)
      (fun process => ?_)
    · split <;> rfl
    · cases same : process.state <;>
        simp [ProcessState.isStopped, ProcessState.isFinished, same]
  isCurrent := rfl
  isPrevious := rfl

/-- Where a job runs is no matter of its processes. -/
theorem Adjusts.inBackground {job next : Job} (adjusts : job.Adjusts next)
    (background : Bool) :
    job.Adjusts { next with background } :=
  ⟨adjusts.serial, adjusts.pids, adjusts.livePids, adjusts.isCurrent,
    adjusts.isPrevious⟩

end Job

namespace JobTable

theorem adjusts_toForeground (resume : Bool) (job : Job) :
    job.Adjusts (Shell.toForeground resume job) := by
  cases resume with
  | false => exact ⟨rfl, rfl, rfl, rfl, rfl⟩
  | true => exact job.adjusts_continued.inBackground false

/-- Where a serial is known, a change of its job may make it the current one. -/
theorem changes_update_makeCurrent {table : JobTable} {serial : Nat}
    {change : Job → Job} (known : (table.get? serial).isSome)
    (adjusts : ∀ job : Job, job.Adjusts (change job)) :
    Changes table ((table.update serial change).makeCurrent serial) := by
  refine Relation.ReflTransGen.tail (.single (.adjust serial adjusts))
    (.makeCurrent ?_)
  rwa [isSome_get?_iff, serials_update, ← isSome_get?_iff]

theorem changes_resumed {table : JobTable} {serial : Nat}
    (known : (table.get? serial).isSome) :
    Changes table (table.resumed serial) := by
  apply changes_update_makeCurrent known
  exact fun job => job.adjusts_continued.inBackground true

theorem Waited.changes {table next : JobTable} {serial : Nat} {resume : Bool}
    {outcome : Except Failure WaitOutcome}
    (waited : Waited serial resume table outcome next) :
    Changes table next := by
  have noted : ∀ {noted : JobTable}, (table.get? serial).isSome →
      Records (table.broughtForward serial resume) noted →
      Changes table noted :=
    fun known records =>
      (changes_update_makeCurrent known (adjusts_toForeground resume)).trans
        records.changes
  cases waited with
  | unknown absent => exact .refl
  | failed failure known records => exact noted known records
  | finished known records found done =>
      exact (noted known records).tail (.remove serial)
  | stopped known records found live =>
      exact (noted known records).tail
        (.adjust serial fun _ => ⟨rfl, rfl, rfl, rfl, rfl⟩)

end JobTable

namespace Shell

open JobTable

/-- Whatever the system replies, the action takes the table through changes. -/
def ChangesJobs {α : Type} (action : Shell α) : Prop :=
  ∀ (before after : Session) (outcome : Except Failure α),
    action.MayEnd before outcome after → Changes before.jobs after.jobs

theorem changesJobs_reap : reap.ChangesJobs := by
  intro before after outcome ends
  obtain ⟨answers, _, _, rfl⟩ := mayEnd_reap.mp ends
  exact changes_reap before.jobs answers

theorem changesJobs_waitFor (serial : Nat) (resume : Bool) :
    (waitFor serial resume).ChangesJobs :=
  fun _ _ _ ends => (waited_of_mayEnd ends).changes

theorem changesJobs_resumeBackground
    (serial : Nat) : (resumeBackground serial).ChangesJobs := by
  intro before after outcome ends
  rcases jobs_of_resumeBackground ends with same | ⟨known, goesOn⟩
  · rw [same]
  · rw [goesOn]
    exact changes_resumed known

theorem changesJobs_signalJob (serial : Nat) (signal : Signal) :
    (signalJob serial signal).ChangesJobs := by
  intro before after outcome ends
  rw [session_of_signalJob ends]

theorem changesJobs_hangUpAll : hangUpAll.ChangesJobs := by
  intro before after outcome ends
  rw [session_of_hangUpAll ends]

end Shell

namespace JobTable

/-- One call that changes the table.  Nothing is assumed of the system's
replies, and the answers of a look at the processes may come in any order. -/
inductive Step : JobTable → JobTable → Prop where
  | add {table : JobTable} (group : Pid) (pids : List Pid) (command : String)
      (background : Bool) (distinct : pids.Nodup)
      (free : ∀ pid ∈ pids, table.owner? pid = none) :
      Step table (table.add group pids command background).2
  | remove {table : JobTable} (serial : Nat) :
      Step table (table.remove serial).2
  | record {table : JobTable} (pid : Pid) (state : ProcessState) :
      Step table (table.record pid state)
  | takeIn {table : JobTable} (answers : List (Pid × WaitAnswer)) :
      Step table (table.reap answers).2
  | reap {before after : Session} {outcome : Except Failure (List Job)}
      (ends : Shell.reap.MayEnd before outcome after) :
        Step before.jobs after.jobs
  | waitFor {before after : Session} {serial : Nat} {resume : Bool}
      {outcome : Except Failure WaitOutcome}
      (ends : (Shell.waitFor serial resume).MayEnd before outcome after) :
      Step before.jobs after.jobs
  | resumeBackground {before after : Session} {serial : Nat}
      {outcome : Except Failure Job}
      (ends : (Shell.resumeBackground serial).MayEnd before outcome after) :
      Step before.jobs after.jobs
  | signalJob {before after : Session} {serial : Nat} {signal : Signal}
      {outcome : Except Failure Unit}
      (ends : (Shell.signalJob serial signal).MayEnd before outcome after) :
      Step before.jobs after.jobs
  | hangUpAll {before after : Session} {outcome : Except Failure Unit}
      (ends : Shell.hangUpAll.MayEnd before outcome after) :
        Step before.jobs after.jobs

/-- The tables that calls make of the empty one. -/
def Reachable (table : JobTable) : Prop :=
  Relation.ReflTransGen Step empty table

theorem Step.changes {table next : JobTable}
    (step : Step table next) : Changes table next := by
  cases step with
  | add group pids command background distinct free =>
      exact .single (.add group pids command background distinct free)
  | remove serial => exact .single (.remove serial)
  | record pid state => exact .single (.record pid state)
  | takeIn answers => exact changes_reap table answers
  | reap ends => exact Shell.changesJobs_reap _ _ _ ends
  | waitFor ends => exact Shell.changesJobs_waitFor _ _ _ _ _ ends
  | resumeBackground ends =>
      exact Shell.changesJobs_resumeBackground _ _ _ _ ends
  | signalJob ends => exact Shell.changesJobs_signalJob _ _ _ _ _ ends
  | hangUpAll ends => exact Shell.changesJobs_hangUpAll _ _ _ ends

/-- What the empty table has and every change keeps, every reachable table
has. -/
theorem Reachable.invariant {law : JobTable → Prop} (initially : law empty)
    (kept : ∀ {table next : JobTable}, Change table next → law table → law next)
    {table : JobTable} (reachable : Reachable table) : law table := by
  induction reachable with
  | refl => exact initially
  | tail _ step induction => exact step.changes.invariant kept induction

end JobTable

end JobShell
