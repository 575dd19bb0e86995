import JobShell.Proofs.Job.Reaping

/-!
# Tables that look alike

The job list says of a process no more than whether it has finished or stopped.
How it has finished may be forgotten: no line of the list changes, and whatever
is done to the table can be done to what is left of it.
-/

namespace JobShell

namespace ProcessState

/-- The state without the way in which the process has finished. -/
def plain : ProcessState → ProcessState
  | exited _ => exited 0
  | killed _ => exited 0
  | running => running
  | stopped signal => stopped signal

@[simp] theorem isFinished_plain (state : ProcessState) :
    state.plain.isFinished = state.isFinished := by
  cases state <;> rfl

@[simp] theorem isStopped_plain (state : ProcessState) :
    state.plain.isStopped = state.isStopped := by
  cases state <;> rfl

theorem plain_of_isFinished {state : ProcessState}
    (finished : state.isFinished = true) :
    state.plain = .exited 0 := by
  cases state with
  | running => cases finished
  | stopped signal => cases finished
  | exited status => rfl
  | killed signal => rfl

end ProcessState

def Process.plain (process : Process) : Process :=
  { process with state := process.state.plain }

namespace Job

def plain (job : Job) : Job :=
  { job with processes := job.processes.map Process.plain }

@[simp] theorem state_plain (job : Job) : job.plain.state = job.state := by
  simp [state, plain, Process.plain, List.all_map, List.any_map,
    Function.comp_def]

@[simp] theorem pids_plain (job : Job) : job.plain.pids = job.pids := by
  simp [pids, plain, Process.plain, Function.comp_def]

/-- The job list does not show what is forgotten. -/
theorem display_plain (job : Job) : job.plain.display = job.display := by
  unfold display leader
  rw [state_plain, pids_plain]
  rfl

theorem plain_recordIn (pid : Pid) (state : ProcessState)
    (processes : List Process) :
    (recordIn pid state processes).map Process.plain =
      recordIn pid state.plain (processes.map Process.plain) := by
  induction processes with
  | nil => rfl
  | cons process processes induction =>
      by_cases same : process.pid = pid
      · simp [recordIn, Process.plain, same]
      · simp [recordIn, Process.plain, same] at induction ⊢
        exact induction

theorem plain_record (job : Job) (pid : Pid) (state : ProcessState) :
    (job.record pid state).plain = job.plain.record pid state.plain :=
  congrArg (fun processes => { job with processes })
    (plain_recordIn pid state job.processes)

end Job

namespace JobTable

def plain (table : JobTable) : JobTable :=
  { table with
    entries := table.entries.map fun (serial, job) => (serial, job.plain) }

@[simp] theorem get?_plain (table : JobTable) (serial : Nat) :
    table.plain.get? serial = (table.get? serial).map Job.plain :=
  lookup_map_value (fun _ (job : Job) => job.plain) table.entries serial

theorem jobs_plain (table : JobTable) :
    table.plain.jobs = table.jobs.map Job.plain := by
  simp [jobs, plain, Function.comp_def]

@[simp] theorem serials_plain (table : JobTable) :
    table.plain.serials = table.serials := by
  simp [serials, plain, Function.comp_def]

theorem plain_update (table : JobTable) (serial : Nat)
    {change other : Job → Job}
    (same : ∀ job : Job, (change job).plain = other job.plain) :
    (table.update serial change).plain = table.plain.update serial other := by
  simp only [update, plain, List.map_map]
  congr 1
  apply List.map_congr_left
  rintro ⟨key, job⟩ _
  by_cases here : key = serial
  · simp [here, same]
  · simp [here]

theorem plain_update_self (table : JobTable) (serial : Nat) {change : Job → Job}
    (same : ∀ job : Job, (change job).plain = change job.plain) :
    (table.update serial change).plain = table.plain.update serial change :=
  plain_update table serial same

theorem plain_remarked (serial : Nat) (job : Job) :
    (remarked serial job).plain = remarked serial job.plain := by
  by_cases here : job.serial = serial
  · simp [remarked, Job.plain, here]
  · by_cases current : job.isCurrent = true
    · simp [remarked, Job.plain, here, current]
    · simp [remarked, Job.plain, here, current]

theorem plain_makeCurrent (table : JobTable) (serial : Nat) :
    (table.makeCurrent serial).plain = table.plain.makeCurrent serial := by
  simp only [makeCurrent, plain, List.map_map]
  congr 1
  apply List.map_congr_left
  rintro ⟨key, job⟩ _
  exact congrArg (Prod.mk key) (plain_remarked serial job)

theorem plain_strike (table : JobTable) (serial : Nat) (job : Job) :
    (table.strike serial job).plain = table.plain.strike serial job.plain := by
  simp only [strike, plain, Job.pids_plain, List.filter_map]
  rfl

theorem successor?_plain (jobs : List Job) :
    successor? (jobs.map Job.plain) = (successor? jobs).map Job.plain := by
  unfold successor?
  rw [List.find?_map, List.getLast?_map, Option.map_or]
  rfl

theorem remove_plain (table : JobTable) (serial : Nat) :
    table.plain.remove serial =
      ((table.remove serial).1.map Job.plain,
        (table.remove serial).2.plain) := by
  unfold remove
  rw [get?_plain]
  cases table.get? serial with
  | none => rfl
  | some job =>
      dsimp only [Option.map_some]
      rw [← plain_strike, jobs_plain, successor?_plain]
      have current : job.plain.isCurrent = job.isCurrent := rfl
      rw [current]
      cases job.isCurrent with
      | false => rfl
      | true =>
          cases successor? (table.strike serial job).jobs with
          | none => rfl
          | some next => exact congrArg _ (plain_makeCurrent _ _).symm

theorem settleJob_plain (table : JobTable) (serial : Nat) :
    table.plain.settleJob serial =
      ((table.settleJob serial).1.map Job.plain,
        (table.settleJob serial).2.plain) := by
  have seen := get?_plain table serial
  cases found : table.get? serial with
  | none =>
      rw [found] at seen
      rw [settleJob_of_none seen, settleJob_of_none found]
      rfl
  | some job =>
      rw [found] at seen
      have state := job.state_plain
      by_cases told : job.state = job.reported
      · rw [settleJob_of_reported seen (state.trans told),
          settleJob_of_reported found told]
        rfl
      · have news : job.reported ≠ job.state := fun same => told same.symm
        have report (reported : JobState) :
            (table.update serial fun other => { other with reported }).plain =
              table.plain.update serial fun other => { other with reported } :=
          plain_update_self table serial fun _ => rfl
        cases now : job.state with
        | done =>
            rw [settleJob_of_done seen (state.trans now) (now ▸ news),
              settleJob_of_done found now (now ▸ news), ← report, remove_plain]
            have background : job.plain.background = job.background := rfl
            rw [background]
            cases job.background <;> rfl
        | stopped =>
            rw [settleJob_of_stopped seen (state.trans now) (now ▸ news),
              settleJob_of_stopped found now (now ▸ news), ← report]
            refine Prod.ext rfl (Eq.symm ?_)
            apply plain_update_self
            exact fun _ => rfl
        | running =>
            rw [settleJob_of_running seen (state.trans now) (now ▸ news),
              settleJob_of_running found now (now ▸ news), ← report]
            rfl

theorem settleAll_plain (serials : List Nat) (table : JobTable) :
    table.plain.settleAll serials =
      ((table.settleAll serials).1.map Job.plain,
        (table.settleAll serials).2.plain) := by
  induction serials generalizing table with
  | nil => rfl
  | cons serial serials induction =>
      simp only [settleAll, settleJob_plain, induction, List.map_append]

theorem isNone_get?_plain (table : JobTable) (serial : Nat) :
    (table.plain.get? serial).isNone = (table.get? serial).isNone := by
  simp

theorem record_plain (table : JobTable) (pid : Pid) (state : ProcessState) :
    (table.record pid state).plain = table.plain.record pid state.plain := by
  unfold record
  have owner : table.plain.owner? pid = table.owner? pid := rfl
  rw [owner]
  cases table.owner? pid with
  | none => rfl
  | some serial =>
      dsimp only
      rw [isNone_get?_plain, ProcessState.isFinished_plain,
        ← plain_update table serial fun job => job.plain_record pid state]
      split
      · rfl
      · split <;> rfl

end JobTable

end JobShell
