import JobShell.Job.Basic
import Mathlib.Data.List.Nodup

/-!
# Live processes of a job

Which processes of a job have not finished, and what a new state of one of them
does to the others.
-/

namespace JobShell.Job

theorem mem_livePids {job : Job} {pid : Pid} :
    pid ∈ job.livePids ↔
      ∃ process ∈ job.processes,
        process.pid = pid ∧ process.state.isFinished = false := by
  simp only [livePids, List.mem_map, List.mem_filter, Bool.not_eq_true']
  constructor
  · rintro ⟨process, ⟨member, live⟩, same⟩
    exact ⟨process, member, same, live⟩
  · rintro ⟨process, member, same, live⟩
    exact ⟨process, ⟨member, live⟩, same⟩

theorem livePids_subset_pids (job : Job) : job.livePids ⊆ job.pids := by
  intro pid member
  obtain ⟨process, member, same, _⟩ := mem_livePids.mp member
  exact List.mem_map.mpr ⟨process, member, same⟩

@[simp] theorem serial_launched (group : Pid) (serial : Nat) (pids : List Pid)
    (command : String) (background : Bool) :
    (launched group serial pids command background).serial = serial :=
  rfl

@[simp] theorem livePids_launched (group : Pid) (serial : Nat) (pids : List Pid)
    (command : String) (background : Bool) :
    (launched group serial pids command background).livePids = pids := by
  simp [livePids, launched, ProcessState.isFinished, List.filter_map,
    Function.comp_def]

@[simp] theorem pids_launched (group : Pid) (serial : Nat) (pids : List Pid)
    (command : String) (background : Bool) :
    (launched group serial pids command background).pids = pids := by
  simp [Job.pids, launched, Function.comp_def]

theorem map_pid_recordIn (pid : Pid) (state : ProcessState)
    (processes : List Process) :
    (recordIn pid state processes).map Process.pid =
      processes.map Process.pid := by
  induction processes with
  | nil => rfl
  | cons process processes induction =>
      unfold recordIn
      split
      · rfl
      · simp only [List.map_cons, induction]

theorem pids_record (job : Job) (pid : Pid) (state : ProcessState) :
    (job.record pid state).pids = job.pids :=
  map_pid_recordIn pid state job.processes

theorem mem_recordIn_of_ne {pid : Pid} {state : ProcessState}
    {processes : List Process} {process : Process}
    (different : process.pid ≠ pid) :
    process ∈ recordIn pid state processes ↔ process ∈ processes := by
  induction processes with
  | nil => rfl
  | cons first processes induction =>
      unfold recordIn
      split
      · next same =>
          have notNew : process ≠ { first with state } := by
            rintro rfl
            exact different same
          have notOld : process ≠ first := by
            rintro rfl
            exact different same
          simp [notNew, notOld]
      · simp only [List.mem_cons, induction]

/-- Where a number stands for one process only, that process gets the state. -/
theorem mem_recordIn_self {pid : Pid} {state : ProcessState}
    {processes : List Process} (distinct : (processes.map Process.pid).Nodup)
    {process : Process} (same : process.pid = pid) :
    process ∈ recordIn pid state processes ↔
      process.state = state ∧ pid ∈ processes.map Process.pid := by
  induction processes with
  | nil => simp [recordIn]
  | cons first processes induction =>
      rw [List.map_cons, List.nodup_cons] at distinct
      unfold recordIn
      split
      · next firstSame =>
          have notLater : process ∉ processes := by
            intro member
            exact distinct.1
              (List.mem_map.mpr ⟨process, member, same.trans firstSame.symm⟩)
          have asNew : process = ⟨pid, state⟩ ↔ process.state = state := by
            constructor
            · rintro rfl
              rfl
            · rintro rfl
              exact same ▸ rfl
          simp [notLater, asNew, firstSame]
      · next firstDifferent =>
          have notFirst : process ≠ first := by
            rintro rfl
            exact firstDifferent same
          have notFirstPid : pid ≠ first.pid :=
            fun equality => firstDifferent equality.symm
          simp [notFirst, notFirstPid, induction distinct.2]

theorem mem_livePids_record {job : Job} (distinct : job.pids.Nodup) {pid : Pid}
    (member : pid ∈ job.pids) (state : ProcessState) (other : Pid) :
    other ∈ (job.record pid state).livePids ↔
      if other = pid then state.isFinished = false
      else other ∈ job.livePids := by
  rw [mem_livePids]
  split
  · next same =>
      subst other
      constructor
      · rintro ⟨process, recorded, same, live⟩
        rw [← ((mem_recordIn_self distinct same).mp recorded).1]
        exact live
      · intro live
        exact ⟨⟨pid, state⟩,
          (mem_recordIn_self distinct rfl).mpr ⟨rfl, member⟩, rfl, live⟩
  · next different =>
      rw [mem_livePids]
      constructor
      · rintro ⟨process, recorded, rfl, live⟩
        exact ⟨process, (mem_recordIn_of_ne different).mp recorded, rfl, live⟩
      · rintro ⟨process, listed, rfl, live⟩
        exact ⟨process, (mem_recordIn_of_ne different).mpr listed, rfl, live⟩

/-- A change that lets no process finish, and none come back, keeps the live
ones. -/
theorem livePids_map_of_same {change : Process → Process}
    (processes : List Process)
    (pid : ∀ process, (change process).pid = process.pid)
    (finished : ∀ process,
      (change process).state.isFinished = process.state.isFinished) :
    ((processes.map change).filter fun process => !process.state.isFinished).map
      Process.pid =
      (processes.filter fun process => !process.state.isFinished).map
        Process.pid := by
  induction processes with
  | nil => rfl
  | cons process processes induction =>
      simp only [List.map_cons, List.filter_cons, finished]
      split
      · simp only [List.map_cons, pid, induction]
      · exact induction

end JobShell.Job
