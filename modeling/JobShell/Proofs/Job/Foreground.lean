import JobShell.Proofs.Job.Hearing
import JobShell.Proofs.System.Trace

/-!
# What a wait in the foreground comes to

A wait hands the terminal over, asks about the live processes of the job in
turn, and takes the terminal back whatever it has heard.  What it says of the
job, and what it leaves in the table, are what the answers tell: the job is
done, or one of its processes has stopped, or an answer was a failure.
-/

namespace JobShell

/-- The answer to a question about a process, with the process. -/
def Exchange.answered? : Exchange → Option (Pid × WaitAnswer)
  | ⟨.wait pid _, answer⟩ => some (pid, answer)
  | _ => none

/-- What was heard of processes on the way. -/
def heardIn (exchanges : List Exchange) : List (Pid × WaitAnswer) :=
  exchanges.filterMap Exchange.answered?

/-- The exchanges of a wait that gets these answers. -/
def waits (answers : List (Pid × WaitAnswer)) : List Exchange :=
  answers.map fun entry => ⟨.wait entry.1 .block, entry.2⟩

/-- The terminal is given to a group if the shell has one to give. -/
def TerminalControl.handOver (control : TerminalControl)
    (group : Pid) : List Call :=
  if control.interactive then [.giveTerminal group] else []

/-- All that a wait for a job of this group calls, when it asks about these
processes. -/
def foregroundCalls (control : TerminalControl) (group : Pid) (resume : Bool)
    (asked : List Pid) : List Call :=
  control.handOver group ++ .setForeground (some group) ::
    ((if resume then [.signalGroup group .cont] else []) ++
      (asked.map fun pid => .wait pid .block) ++
      .setForeground none :: control.handOver control.shellGroup)

@[simp] theorem heardIn_append (first second : List Exchange) :
    heardIn (first ++ second) = heardIn first ++ heardIn second :=
  List.filterMap_append

theorem heardIn_waits (answers : List (Pid × WaitAnswer)) :
    heardIn (waits answers) = answers := by
  unfold heardIn waits
  rw [List.filterMap_map]
  exact List.filterMap_some

theorem calls_waits (answers : List (Pid × WaitAnswer)) :
    (waits answers).map Sigma.fst = (answers.map Prod.fst).map fun pid =>
      .wait pid .block := by
  simp [waits]

/-- Who asks about no process hears of none. -/
theorem heardIn_eq_nil {exchanges : List Exchange}
    (silent : ∀ pid mode, Call.wait pid mode ∉ exchanges.map Sigma.fst) :
    heardIn exchanges = [] := by
  unfold heardIn
  rw [List.filterMap_eq_nil_iff]
  rintro ⟨call, reply⟩ member
  cases call with
  | wait pid mode => exact absurd (List.mem_map_of_mem member) (silent pid mode)
  | _ => rfl

namespace Shell

open JobTable

variable {before after : Session} {exchanges : List Exchange}

theorem goes_hang {α : Type} {outcome : Except Failure α} :
    ¬(liftM (Activity.hang : Activity α) : Shell α).Goes before exchanges
      outcome after := by
  intro goes
  obtain ⟨_, stuck, _⟩ := goes_lift.mp goes
  obtain ⟨impossible, _⟩ : ∃ _ : Empty, _ := stuck
  exact impossible.elim

theorem awaitProcess_succ (patience : Nat) (pid : Pid) :
    awaitProcess (patience + 1) pid = (do
      let answer ← Activity.wait pid .block
      modifyJobs fun table => table.recordAnswer pid answer
      match answer.verdict? with
      | some verdict => ofOutcome verdict
      | none => awaitProcess patience pid) := by
  rw [awaitProcess]
  congr 1
  funext answer
  congr 1
  funext _
  cases answer with
  | changed other state => cases state <;> rfl
  | noChange => rfl
  | other => rfl
  | failed errno =>
      simp only [WaitAnswer.verdict?]
      split
      · rfl
      · split <;> rfl

theorem goes_awaitProcess {patience : Nat} {pid : Pid}
    {verdict : Except Failure Bool}
    (goes : (awaitProcess patience pid).Goes before exchanges verdict after) :
    ∃ answers, exchanges = waits answers ∧ Hears pid answers verdict ∧
      after = { before with jobs := before.jobs.recordAnswers answers } := by
  induction patience generalizing before exchanges with
  | zero => exact absurd goes goes_hang
  | succ patience induction =>
      rw [awaitProcess_succ] at goes
      obtain ⟨answer, rest, rfl, goesOn⟩ := goes_ask_bind.mp goes
      rw [goes_modifyJobs_bind] at goesOn
      cases settled : WaitAnswer.verdict? answer with
      | some ended =>
          rw [settled] at goesOn
          obtain ⟨rfl, rfl, rfl⟩ := goes_ofOutcome.mp goesOn
          exact ⟨[(pid, answer)], rfl, .last settled, rfl⟩
      | none =>
          rw [settled] at goesOn
          obtain ⟨answers, rfl, hears, rfl⟩ := induction goesOn
          exact ⟨(pid, answer) :: answers, rfl, .again settled hears, rfl⟩

theorem goes_awaitProcesses {pids : List Pid} {outcome : Except Failure Unit}
    (goes : (awaitProcesses pids).Goes before exchanges outcome after) :
    ∃ answers conclusion,
      exchanges = waits answers ∧ HearsAll pids answers conclusion ∧
      outcome = conclusion.map (fun _ => ()) ∧
      after = { before with jobs := before.jobs.recordAnswers answers } := by
  induction pids generalizing before exchanges with
  | nil =>
      obtain ⟨rfl, rfl, rfl⟩ := goes_pure.mp goes
      exact ⟨[], .ok false, rfl, .nobody, rfl, rfl⟩
  | cons pid pids induction =>
      unfold awaitProcesses at goes
      rcases goes_bind.mp goes with
        ⟨first, second, stopped, between, rfl, awaited, goesOn⟩ |
          ⟨failure, awaited, rfl⟩
      · obtain ⟨early, rfl, hears, rfl⟩ := goes_awaitProcess awaited
        cases stopped with
        | true =>
            obtain ⟨rfl, rfl, rfl⟩ := goes_pure.mp goesOn
            exact ⟨early, .ok true, List.append_nil _, .stopped hears, rfl, rfl⟩
        | false =>
            obtain ⟨late, conclusion, rfl, later, rfl, rfl⟩ := induction goesOn
            refine ⟨early ++ late, conclusion, ?_,
              .finished hears later, rfl, ?_⟩
            · exact List.map_append.symm
            · simp
      · obtain ⟨answers, rfl, hears, rfl⟩ := goes_awaitProcess awaited
        exact ⟨answers, .error failure, rfl, .failed hears, rfl, rfl⟩

theorem goes_giveTerminal {group : Pid} {outcome : Except Failure Unit}
    (goes : (giveTerminal group).Goes before exchanges outcome after) :
    outcome = .ok () ∧ after = before ∧
      exchanges.map Sigma.fst = before.terminal.handOver group := by
  unfold giveTerminal at goes
  rw [goes_get_bind] at goes
  unfold TerminalControl.handOver
  split at goes
  · next interactive =>
      obtain ⟨_, rfl, rfl, rfl⟩ := goes_discard_ask.mp goes
      exact ⟨rfl, rfl, by rw [if_pos interactive]; rfl⟩
  · next detached =>
      obtain ⟨rfl, rfl, rfl⟩ := goes_pure.mp goes
      exact ⟨rfl, rfl, by rw [if_neg detached]; rfl⟩

theorem goes_giveTerminal_bind {α : Type} {group : Pid} {next : Unit → Shell α}
    {outcome : Except Failure α}
    (goes : (giveTerminal group >>= next).Goes before exchanges outcome after) :
    ∃ given rest, exchanges = given ++ rest ∧
      given.map Sigma.fst = before.terminal.handOver group ∧
      (next ()).Goes before rest outcome after := by
  rcases goes_bind.mp goes with ⟨given, rest, _, between, rfl, goes, goesOn⟩ |
    ⟨_, goes, _⟩
  · obtain ⟨_, rfl, calls⟩ := goes_giveTerminal goes
    exact ⟨given, rest, rfl, calls, goesOn⟩
  · cases (goes_giveTerminal goes).1

theorem heardIn_handOver {control : TerminalControl} {group : Pid}
    {given : List Exchange}
    (calls : given.map Sigma.fst = control.handOver group) :
    heardIn given = [] := by
  apply heardIn_eq_nil
  intro pid mode member
  rw [calls, TerminalControl.handOver] at member
  split at member
  · cases List.mem_singleton.mp member
  · cases member

theorem goes_settleForeground {serial : Nat}
    {outcome : Except Failure WaitOutcome}
    (goes : (settleForeground serial).Goes before exchanges outcome after) :
    exchanges = [] := by
  unfold settleForeground at goes
  rw [goes_get_bind] at goes
  split at goes
  · exact (goes_pure.mp goes).1
  · split at goes
    · exact (goes_pure.mp goes).1
    · exact (goes_pure.mp goes).1

/-- The part of a wait behind the signal to go on. -/
def waitBehindSignal (serial : Nat) : Shell WaitOutcome := do
  let pids := (((← get).jobs.get? serial).map Job.livePids).getD []
  let waited ← attempt (awaitProcesses pids)
  Activity.setForeground none
  reclaimTerminal
  ofOutcome waited
  settleForeground serial

theorem goes_waitBehindSignal {serial : Nat} {job : Job}
    {outcome : Except Failure WaitOutcome}
    (found : before.jobs.get? serial = some job)
    (goes : (waitBehindSignal serial).Goes before exchanges outcome after) :
    ∃ answers conclusion given,
      exchanges = waits answers ++ ⟨.setForeground none, ()⟩ :: given ∧
      given.map Sigma.fst =
        before.terminal.handOver before.terminal.shellGroup ∧
      HearsAll job.livePids answers conclusion ∧
      (ofOutcome (conclusion.map fun _ => ()) >>=
        fun _ => settleForeground serial).Goes
        { before with jobs := before.jobs.recordAnswers answers }
          [] outcome after := by
  unfold waitBehindSignal at goes
  rw [goes_get_bind, found] at goes
  obtain ⟨_, _, _, _, rfl, awaited, cleared⟩ := goes_attempt_bind.mp goes
  obtain ⟨answers, conclusion, rfl, hears, rfl, rfl⟩ :=
    goes_awaitProcesses awaited
  obtain ⟨_, _, rfl, reclaimed⟩ := goes_ask_bind.mp cleared
  unfold reclaimTerminal at reclaimed
  rw [bind_assoc, goes_get_bind] at reclaimed
  obtain ⟨given, rest, rfl, calls, settled⟩ := goes_giveTerminal_bind reclaimed
  have quiet : rest = [] := by
    rcases goes_bind.mp settled with ⟨_, _, _, _, rfl, ended, settles⟩ |
      ⟨_, ended, _⟩
    · rw [(goes_ofOutcome.mp ended).1, goes_settleForeground settles]
      rfl
    · exact (goes_ofOutcome.mp ended).1
  subst quiet
  rw [List.append_nil]
  exact ⟨answers, conclusion, given, rfl, calls, hears, settled⟩

/-- A wait for a known job: what it asks, what it hears, and how it goes on from
there. -/
theorem goes_waitFor {serial : Nat} {resume : Bool} {job : Job}
    {outcome : Except Failure WaitOutcome}
    (found : before.jobs.get? serial = some job)
    (goes : (waitFor serial resume).Goes before exchanges outcome after) :
    ∃ conclusion,
      HearsAll (toForeground resume job).livePids
        (heardIn exchanges) conclusion ∧
      exchanges.map Sigma.fst = foregroundCalls before.terminal job.group resume
        ((heardIn exchanges).map Prod.fst) ∧
      (ofOutcome (conclusion.map fun _ => ()) >>=
        fun _ => settleForeground serial).Goes
        { before with
          jobs :=
            (before.jobs.broughtForward serial resume).recordAnswers
              (heardIn exchanges) }
        [] outcome after := by
  have forward : (before.jobs.broughtForward serial resume).get? serial =
      some (remarked serial (toForeground resume job)) := by
    rw [broughtForward, get?_makeCurrent, get?_update_self found]
    rfl
  unfold waitFor at goes
  unfold Shell.job at goes
  rw [bind_assoc, goes_get_bind] at goes
  simp only [found, pure_bind] at goes
  rw [goes_modifyJobs_bind] at goes
  obtain ⟨given, _, rfl, givenCalls, entered⟩ := goes_giveTerminal_bind goes
  obtain ⟨_, _, rfl, signalled⟩ := goes_ask_bind.mp entered
  have behind : ∀ {rest : List Exchange},
      (waitBehindSignal serial).Goes
        { before with jobs := before.jobs.broughtForward serial resume } rest
          outcome after →
      ∃ conclusion,
        HearsAll (toForeground resume job).livePids (heardIn rest) conclusion ∧
        rest.map Sigma.fst =
          ((heardIn rest).map Prod.fst).map (fun pid => .wait pid .block) ++
          .setForeground none ::
            before.terminal.handOver before.terminal.shellGroup ∧
        (ofOutcome (conclusion.map fun _ => ()) >>=
          fun _ => settleForeground serial).Goes
          { before with
            jobs :=
              (before.jobs.broughtForward serial resume).recordAnswers
                (heardIn rest) }
          [] outcome after := by
    intro rest goesOn
    obtain ⟨answers, conclusion, taken, rfl, takenCalls, hears, settles⟩ :=
      goes_waitBehindSignal forward goesOn
    have heard : heardIn (waits answers ++ ⟨.setForeground none, ()⟩ :: taken) =
        answers := by
      rw [heardIn_append, heardIn_waits]
      have nothing : heardIn taken = [] := heardIn_handOver takenCalls
      change answers ++ heardIn taken = answers
      rw [nothing, List.append_nil]
    rw [livePids_remarked] at hears
    rw [heard]
    refine ⟨conclusion, hears, ?_, settles⟩
    rw [List.map_append, calls_waits, List.map_cons, takenCalls]
  have givenNothing : heardIn given = [] := heardIn_handOver givenCalls
  cases resume with
  | true =>
      obtain ⟨reply, rest, rfl, goesOn⟩ := goes_discard_ask_bind.mp signalled
      obtain ⟨conclusion, hears, calls, settles⟩ := behind goesOn
      have heard : heardIn (given ++ ⟨.setForeground (some job.group), ()⟩ ::
          ⟨.signalGroup job.group .cont, reply⟩ :: rest) = heardIn rest := by
        rw [heardIn_append, givenNothing]
        rfl
      refine ⟨conclusion, by rwa [heard], ?_, by rwa [heard]⟩
      rw [heard, List.map_append, givenCalls, List.map_cons,
        List.map_cons, calls]
      rfl
  | false =>
      obtain ⟨conclusion, hears, calls, settles⟩ := behind signalled
      have heard : ∀ rest,
          heardIn (given ++ ⟨.setForeground (some job.group), ()⟩ :: rest) =
          heardIn rest := by
        intro rest
        rw [heardIn_append, givenNothing]
        rfl
      refine ⟨conclusion, by rwa [heard], ?_, by rwa [heard]⟩
      rw [heard, List.map_append, givenCalls, List.map_cons, calls]
      rfl

end Shell

namespace JobTable

section Quiet

variable {table : JobTable} {serial : Nat} {answers : List (Pid × WaitAnswer)}

/-- Settling one job tells of this job only, and leaves the others as they
are. -/
theorem settleJob_concerns (table : JobTable) (key : Nat) :
    (∀ notice ∈ (table.settleJob key).1,
      ∃ job, table.get? key = some job ∧ notice.serial = job.serial) ∧
    ∀ serial, serial ≠ key →
      (table.settleJob key).2.unmarked? serial = table.unmarked? serial := by
  cases found : table.get? key with
  | none =>
      rw [settleJob_of_none found]
      exact ⟨nofun, fun _ _ => rfl⟩
  | some job =>
      by_cases reported : job.state = job.reported
      · rw [settleJob_of_reported found reported]
        exact ⟨nofun, fun _ _ => rfl⟩
      · have news : ∀ {shown}, job.state = shown → job.reported ≠ shown :=
          fun state same => reported (state.trans same.symm)
        cases state : job.state with
        | done =>
            rw [settleJob_of_done found state (news state)]
            constructor
            · intro notice told
              split at told
              · exact ⟨job, rfl, by rw [List.mem_singleton.mp told]⟩
              · cases told
            · intro serial different
              rw [unmarked?_remove, if_neg different,
                unmarked?_update_of_ne table different]
        | stopped =>
            rw [settleJob_of_stopped found state (news state)]
            constructor
            · intro notice told
              exact ⟨job, rfl, by rw [List.mem_singleton.mp told]⟩
            · intro serial different
              rw [unmarked?_update_of_ne _ different,
                unmarked?_update_of_ne table different]
        | running =>
            rw [settleJob_of_running found state (news state)]
            exact ⟨nofun, fun serial different =>
              unmarked?_update_of_ne table different _⟩

theorem mem_settleJob_serial (consistent : table.Consistent) {key : Nat}
    {notice : Job} (told : notice ∈ (table.settleJob key).1) :
    notice.serial = key := by
  obtain ⟨job, found, same⟩ := (settleJob_concerns table key).1 notice told
  rw [same, consistent.keyed found]

/-- What was reported of the job is how it is. -/
def Reported (table : JobTable) (serial : Nat) : Prop :=
  ∀ job, table.unmarked? serial = some job → job.state = job.reported

theorem Reported.settleJob_eq (reported : table.Reported serial) :
    table.settleJob serial = ([], table) := by
  cases found : table.get? serial with
  | none => exact settleJob_of_none found
  | some job =>
      have seen : table.unmarked? serial = some job.unmarked := by
        rw [unmarked?, found]
        rfl
      exact settleJob_of_reported found (reported job.unmarked seen)

theorem settleAll_cons (table : JobTable) (key : Nat) (serials : List Nat) :
    (table.settleAll (key :: serials)).1 =
      (table.settleJob key).1 ++
        ((table.settleJob key).2.settleAll serials).1 :=
  rfl

theorem not_mem_settleAll (consistent : table.Consistent)
    (reported : table.Reported serial) (serials : List Nat) :
    ∀ notice ∈ (table.settleAll serials).1, notice.serial ≠ serial := by
  induction serials generalizing table with
  | nil => nofun
  | cons key serials induction =>
      intro notice told
      rw [settleAll_cons] at told
      by_cases same : serial = key
      · subst same
        rw [reported.settleJob_eq] at told
        exact induction consistent reported notice told
      · rcases List.mem_append.mp told with first | later
        · rw [mem_settleJob_serial consistent first]
          exact Ne.symm same
        · have reportedLater : (table.settleJob key).2.Reported serial := by
            rw [Reported, (settleJob_concerns table key).2 serial same]
            exact reported
          exact induction (consistent.of_changes (changes_settleJob table key))
            reportedLater notice later

/-- Who is not heard of anew, and is as was reported, is not reported again. -/
theorem not_mem_reap (consistent : table.Consistent)
    (reported : table.Reported serial)
    (noNews : (table.recordAnswers answers).get? serial = table.get? serial) :
    ∀ notice ∈ (table.reap answers).1, notice.serial ≠ serial := by
  have changes := (records_recordAnswers table answers).changes
  apply not_mem_settleAll (consistent.of_changes changes)
  rw [Reported, unmarked?, noNews]
  exact reported

end Quiet

/-- How a wait for a job leaves the table, where `told` is the job with what the
answers told of its processes. -/
inductive Concludes (serial : Nat) (told : Job) (table : JobTable) :
    Except Failure WaitOutcome → Prop where
  | exited
      (finished : ∀ process ∈ told.processes, process.state.isFinished = true)
      (gone : table.get? serial = none)
      (disowned : ∀ pid, table.owner? pid ≠ some serial) :
      Concludes serial told table
        (.ok (.exited ((told.processes.getLast?.map fun process =>
          process.state.status).getD 0)))
  | stopped {process : Process} {signal : Signal}
      (first : told.processes.find? (fun process => process.state.isStopped) =
        some process)
      (state : process.state = .stopped signal)
      (stays : table.unmarked? serial =
        some { told with background := true, reported := .stopped }.unmarked) :
      Concludes serial told table (.ok (.stopped serial (128 + signal.number)))
  | failed {errno : Errno} (unfinished : told.state ≠ .done)
      (stays : table.unmarked? serial = some told.unmarked) :
      Concludes serial told table (.error (.system errno))

section Concludes

variable {table : JobTable} {serial : Nat} {job : Job}

theorem exitStatus_of_done (done : job.state = .done) : job.exitStatus =
    (job.processes.getLast?.map
      fun process => process.state.status).getD 0 := by
  have nobody :
      (job.processes.find? fun process => process.state.isStopped) = none := by
    rw [List.find?_eq_none]
    intro process listed stopped
    have finished := Job.state_eq_done_iff.mp done process listed
    cases state : process.state <;>
      simp_all [ProcessState.isStopped, ProcessState.isFinished]
  rw [Job.exitStatus, nobody]

theorem state_eq_stopped {process : Process} (listed : process ∈ job.processes)
    (stopped : process.state.isStopped = true) : job.state = .stopped := by
  have unfinished : process.state.isFinished = false := by
    cases state : process.state <;>
      simp_all [ProcessState.isStopped, ProcessState.isFinished]
  have live :
      ¬(job.processes.all fun process => process.state.isFinished) = true := by
    intro finished
    rw [List.all_eq_true.mp finished process listed] at unfinished
    cases unfinished
  rw [Job.state, if_neg live,
    if_pos (List.any_eq_true.mpr ⟨process, listed, stopped⟩)]

theorem state_eq_running (unfinished : job.state ≠ .done)
    (nobody : ∀ process ∈ job.processes, process.state.isStopped = false) :
    job.state = .running := by
  have live :
      ¬(job.processes.all fun process => process.state.isFinished) = true :=
    fun finished =>
      unfinished (Job.state_eq_done_iff.mpr (List.all_eq_true.mp finished))
  have noneStopped :
      ¬(job.processes.any fun process => process.state.isStopped) = true := by
    intro stopped
    obtain ⟨process, listed, isStopped⟩ := List.any_eq_true.mp stopped
    rw [nobody process listed] at isStopped
    cases isStopped
  rw [Job.state, if_neg live, if_neg noneStopped]

theorem exists_first_stopped {process : Process}
    (listed : process ∈ job.processes)
    (stopped : process.state.isStopped = true) :
    ∃ first signal,
      job.processes.find? (fun process => process.state.isStopped) =
        some first ∧
      first.state = .stopped signal ∧ job.exitStatus = 128 + signal.number := by
  obtain ⟨first, found⟩ := Option.isSome_iff_exists.mp
    (List.find?_isSome
      (p := fun process : Process => process.state.isStopped) |>.mpr
      ⟨process, listed, stopped⟩)
  have isStopped := List.find?_some found
  cases state : first.state with
  | stopped signal =>
      refine ⟨first, signal, found, state, ?_⟩
      rw [Job.exitStatus, found]
      change first.state.status = _
      rw [state]
      rfl
  | running => simp [state, ProcessState.isStopped] at isStopped
  | exited status => simp [state, ProcessState.isStopped] at isStopped
  | killed signal => simp [state, ProcessState.isStopped] at isStopped

theorem state_of_first_stopped {process : Process}
    (first : job.processes.find? (fun process => process.state.isStopped) =
      some process) :
    job.state = .stopped := by
  have isStopped := List.find?_some first
  exact state_eq_stopped (List.mem_of_find?_eq_some first) isStopped

theorem unmarked_heard (job : Job) (answers : List (Pid × WaitAnswer)) :
    ((remarked serial job).heard answers).unmarked =
      (job.heard answers).unmarked := by
  have same := job.unmarked_remarked serial
  change (remarked serial job).unmarked.heard answers =
    job.unmarked.heard answers
  rw [same]

theorem state_of_unmarked {other : Job} (same : other.unmarked = job.unmarked) :
    other.state = job.state :=
  (congrArg Job.state same :)

theorem exitStatus_of_unmarked {other : Job}
    (same : other.unmarked = job.unmarked) :
    other.exitStatus = job.exitStatus :=
  (congrArg Job.exitStatus same :)

/-- The owners under a serial are known from the job there, whatever its marks
are. -/
theorem owner?_iff_of_unmarked? {next : JobTable}
    (consistent : table.Consistent) (later : next.Consistent)
    (same : next.unmarked? serial = table.unmarked? serial) (pid : Pid) :
    next.owner? pid = some serial ↔ table.owner? pid = some serial := by
  have owned : ∀ {table : JobTable}, table.Consistent →
      (table.owner? pid = some serial ↔
        ∃ plain,
          table.unmarked? serial = some plain ∧ pid ∈ plain.livePids) := by
    intro table consistent
    rw [consistent.owned]
    constructor
    · rintro ⟨job, found, live⟩
      exact ⟨job.unmarked, by rw [unmarked?, found]; rfl, live⟩
    · rintro ⟨_, seen, live⟩
      obtain ⟨job, found, rfl⟩ := Option.map_eq_some_iff.mp seen
      exact ⟨job, found, live⟩
  rw [owned later, owned consistent, same]

end Concludes

end JobTable

namespace Shell

open JobTable

variable {before after : Session} {exchanges : List Exchange}

theorem goes_poll {pids : List Pid} {answers : List (Pid × WaitAnswer)}
    (goes : (poll pids).Goes exchanges answers) :
    answers = heardIn exchanges := by
  induction pids generalizing exchanges answers with
  | nil =>
      obtain ⟨rfl, rfl⟩ := goes
      rfl
  | cons pid pids induction =>
      obtain ⟨_, _, answer, rfl, asked, looked⟩ := Interaction.goes_bind.mp goes
      obtain ⟨_, _, others, rfl, later, rfl, rfl⟩ :=
        Interaction.goes_bind.mp looked
      rw [Interaction.goes_ask.mp asked, induction later, List.append_nil]
      rfl

/-- The notices of a look are those of the table for what was heard. -/
theorem goes_reap {notices : List Job}
    (goes : reap.Goes before exchanges (.ok notices) after) :
    notices = (before.jobs.reap (heardIn exchanges)).1 := by
  unfold reap at goes
  rw [goes_get_bind] at goes
  obtain ⟨_, _, answers, rfl, looked, settled⟩ := goes_lift_bind.mp goes
  rw [goes_get_bind] at settled
  obtain ⟨rfl, ended, _⟩ := goes_pure.mp settled
  cases ended
  rw [List.append_nil, ← goes_poll looked]
  rfl

variable {serial : Nat} {resume : Bool} {job : Job}
  {outcome : Except Failure WaitOutcome}

/-- A job that is done is taken out, and one that has stopped is left in the
background. -/
theorem concludes_of_settleForeground {told : Job}
    (seen : before.jobs.unmarked? serial = some told.unmarked)
    (halts : told.state ≠ .done →
      ∃ process ∈ told.processes, process.state.isStopped = true)
    (consistentAfter : after.jobs.Consistent)
    (settles : (settleForeground serial).MayEnd before outcome after) :
    Concludes serial told after.jobs outcome ∧
      ∀ key, key ≠ serial →
        after.jobs.unmarked? key = before.jobs.unmarked? key := by
  obtain ⟨marked, found, same⟩ := Option.map_eq_some_iff.mp seen
  have state : marked.state = told.state := state_of_unmarked same
  have exitStatus : marked.exitStatus = told.exitStatus :=
    exitStatus_of_unmarked same
  rcases mayEnd_settleForeground found settles with ⟨done, rfl, left⟩ |
    ⟨live, rfl, left⟩
  · rw [state] at done
    have taken : after.jobs.unmarked? serial = none := by
      rw [left, unmarked?_remove, if_pos rfl]
    have gone : after.jobs.get? serial = none := Option.map_eq_none_iff.mp taken
    have disowned : ∀ pid, after.jobs.owner? pid ≠ some serial := by
      intro pid owner
      obtain ⟨_, foundStill, _⟩ := (consistentAfter.owned pid serial).mp owner
      rw [gone] at foundStill
      cases foundStill
    constructor
    · rw [exitStatus, exitStatus_of_done done]
      exact .exited (Job.state_eq_done_iff.mp done) gone disowned
    · intro key different
      rw [left, unmarked?_remove, if_neg different]
  · rw [state] at live
    obtain ⟨process, listed, isStopped⟩ := halts live
    obtain ⟨first, signal, foundFirst, halted, status⟩ :=
      exists_first_stopped listed isStopped
    constructor
    · rw [exitStatus, status]
      refine .stopped foundFirst halted ?_
      have here := get?_update_self found fun job =>
        { job with background := true, reported := .stopped }
      rw [left, leftStopped, unmarked?, here]
      exact congrArg (fun plain : Job =>
        some { plain with background := true, reported := .stopped }) same
    · intro key different
      rw [left, leftStopped, unmarked?_update_of_ne _ different]

/-- The table takes in what was heard of the job that has come forward. -/
theorem unmarked?_of_hears (consistent : before.jobs.Consistent)
    (found : before.jobs.get? serial = some job)
    {answers : List (Pid × WaitAnswer)} {conclusion : Except Failure Bool}
    (hears : HearsAll (toForeground resume job).livePids answers conclusion)
    (about : ∀ entry ∈ answers, entry.2.IsAbout entry.1) (key : Nat) :
    ((before.jobs.broughtForward serial resume).recordAnswers
      answers).unmarked? key =
      if key = serial then
        some ((toForeground resume job).heard answers).unmarked
      else before.jobs.unmarked? key := by
  have forward : (before.jobs.broughtForward serial resume).get? serial =
      some (remarked serial (toForeground resume job)) := by
    rw [broughtForward, get?_makeCurrent, get?_update_self found]
    rfl
  have consistentForward :
      (before.jobs.broughtForward serial resume).Consistent :=
    (consistent.update serial (adjusts_toForeground resume)).makeCurrent serial
  have distinct := consistentForward.distinct forward
  rw [← livePids_remarked serial] at hears
  have follows :=
    hears.follows consistentForward forward (fun _ member => member)
    (Job.nodup_livePids distinct) about
  split
  · next same =>
      rw [same, unmarked?, follows.here, Option.map_some, unmarked_heard]
  · next different =>
      rw [unmarked?, follows.elsewhere key different, ← unmarked?,
        broughtForward, unmarked?_makeCurrent,
        unmarked?_update_of_ne _ different]

/-- What a wait for a known job leaves behind, whatever it has heard. -/
theorem concludes_of_goes (consistent : before.jobs.Consistent)
    (found : before.jobs.get? serial = some job)
    (goes : (waitFor serial resume).Goes before exchanges outcome after)
    (about : ∀ entry ∈ heardIn exchanges, entry.2.IsAbout entry.1) :
    Concludes serial ((toForeground resume job).heard (heardIn exchanges))
      after.jobs outcome ∧
      ∀ key, key ≠ serial →
        after.jobs.unmarked? key = before.jobs.unmarked? key := by
  obtain ⟨conclusion, hears, _, settles⟩ := goes_waitFor found goes
  have consistentAfter : after.jobs.Consistent :=
    consistent.of_changes (waited_of_mayEnd (mayEnd_of_goes goes)).changes
  have distinct : (toForeground resume job).pids.Nodup :=
    (adjusts_toForeground resume job).pids ▸ consistent.distinct found
  have noted := unmarked?_of_hears consistent found hears about
  have seen := (noted serial).trans (if_pos rfl)
  cases conclusion with
  | error failure =>
      obtain ⟨_, errno, _, _, _, rfl⟩ := hears.exists_failed rfl
      rcases goes_bind.mp settles with ⟨_, _, _, _, _, ended, _⟩ |
        ⟨_, ended, rfl⟩
      · cases (goes_ofOutcome.mp ended).2.1
      · obtain ⟨_, same, rfl⟩ := goes_ofOutcome.mp ended
        cases same
        exact ⟨.failed (hears.state_ne_done distinct) seen,
          fun key different => (noted key).trans (if_neg different)⟩
  | ok stopped =>
      have halts :
          ((toForeground resume job).heard (heardIn exchanges)).state ≠ .done →
          ∃ process ∈ ((toForeground resume job).heard
            (heardIn exchanges)).processes,
            process.state.isStopped = true := by
        intro live
        cases stopped with
        | false => exact absurd (hears.state_eq_done distinct) live
        | true => exact hears.exists_stopped
      obtain ⟨concludes, elsewhere⟩ :=
        concludes_of_settleForeground seen halts consistentAfter
          (mayEnd_of_goes settles)
      exact ⟨concludes, fun key different =>
        (elsewhere key different).trans ((noted key).trans (if_neg different))⟩

/-- What a wait says of a job is what it was told of its processes.  On every
way out no group has the foreground any more and the terminal is back with the
shell, and the other jobs have at most moved their marks. -/
theorem waitFor_as_told (consistent : before.jobs.Consistent)
    (found : before.jobs.get? serial = some job)
    (goes : (waitFor serial resume).Goes before exchanges outcome after)
    (about : ∀ entry ∈ heardIn exchanges, entry.2.IsAbout entry.1) :
    exchanges.map Sigma.fst = foregroundCalls before.terminal job.group resume
      ((heardIn exchanges).map Prod.fst) ∧
    (∀ entry ∈ heardIn exchanges,
      entry.1 ∈ (toForeground resume job).livePids) ∧
    Concludes serial ((toForeground resume job).heard (heardIn exchanges))
      after.jobs outcome ∧
    (∀ waited, outcome = .ok waited →
      ((toForeground resume job).heard (heardIn exchanges)).state ≠ .running) ∧
    (∀ {shown : Nat} {status : Int}, outcome = .ok (.stopped shown status) →
      ∀ {looks : List Exchange} {notices : List Job} {later : Session},
        reap.Goes after looks (.ok notices) later →
        (after.jobs.recordAnswers (heardIn looks)).get? serial =
          after.jobs.get? serial →
        ∀ notice ∈ notices, notice.serial ≠ serial) ∧
    (∀ key,
      key ≠ serial → after.jobs.unmarked? key = before.jobs.unmarked? key ∧
      ∀ pid, after.jobs.owner? pid = some key ↔
        before.jobs.owner? pid = some key) := by
  obtain ⟨conclusion, hears, calls, _⟩ := goes_waitFor found goes
  obtain ⟨concludes, elsewhere⟩ := concludes_of_goes consistent found goes about
  have consistentAfter : after.jobs.Consistent :=
    consistent.of_changes (waited_of_mayEnd (mayEnd_of_goes goes)).changes
  refine ⟨calls, hears.asked, concludes, ?_, ?_, fun key different =>
    ⟨elsewhere key different, owner?_iff_of_unmarked? consistent consistentAfter
      (elsewhere key different)⟩⟩
  · rintro waited rfl running
    cases concludes with
    | exited finished gone disowned =>
        rw [Job.state_eq_done_iff.mpr finished] at running
        cases running
    | stopped first state stays =>
        rw [state_of_first_stopped first] at running
        cases running
  · rintro shown status rfl looks notices later looked noNews
    rw [goes_reap looked]
    refine not_mem_reap consistentAfter (fun plain seen => ?_) noNews
    cases concludes with
    | stopped first state stays =>
        rw [stays] at seen
        cases seen
        exact state_of_first_stopped first

/-- A job in the background, and behind it a pipeline of which one process has
stopped. -/
def pausedPipeline : Session :=
  { Session.fresh 1 "/" .empty with
    jobs :=
      ((empty.add 20 [20] "w" true).2.add 10
        [10, 11, 12] "a | b | c" true).2.record 11
      (.stopped .tstp)
    terminal := { interactive := true, ownGroups := true, shellGroup := 1 } }

/-- One process is no child any more, one goes on and exits, and the last one
stops. -/
def pausedAnswers : List (Pid × WaitAnswer) :=
  [(10, .failed .interrupted), (10, .failed .noChild),
    (11, .changed 11 .running), (11, .changed 11 (.exited 3)),
    (12, .changed 12 (.stopped .tstp))]

def pausedExchanges : List Exchange :=
  [⟨.giveTerminal 10, .ok ()⟩, ⟨.setForeground (some 10), ()⟩,
    ⟨.signalGroup 10 .cont, .ok ()⟩] ++
    waits pausedAnswers ++ [⟨.setForeground none, ()⟩,
      ⟨.giveTerminal 1, .ok ()⟩]

def pausedAgain : Session :=
  { pausedPipeline with
    jobs :=
      ((pausedPipeline.jobs.broughtForward 2 true).recordAnswers
        pausedAnswers).leftStopped 2 }

theorem goes_waitFor_paused :
    (waitFor 2 true).Goes pausedPipeline pausedExchanges
      (.ok (.stopped 2 148)) pausedAgain :=
  goes_of_supplies { answers := pausedAnswers.map Prod.snd } rfl

theorem consistent_pausedPipeline : pausedPipeline.jobs.Consistent := by
  have first : (empty.add 20 [20] "w" true).2.Consistent :=
    consistent_empty.add 20 "w" true (by decide) (by decide)
  have second :
      ((empty.add 20 [20] "w" true).2.add 10
        [10, 11, 12] "a | b | c" true).2.Consistent :=
    first.add 10 "a | b | c" true (by decide) (by decide)
  exact second.record 11 (.stopped .tstp)

/-- The first stopped process gives the status, and the job that waits in the
background has lost nothing but a mark. -/
theorem waitFor_as_told_paused :
    pausedPipeline.jobs.Consistent ∧ (pausedPipeline.jobs.get? 2).isSome ∧
    (waitFor 2 true).Goes pausedPipeline pausedExchanges
      (.ok (.stopped 2 148)) pausedAgain ∧
    (∀ entry ∈ heardIn pausedExchanges, entry.2.IsAbout entry.1) ∧
    (∃ told process, told.processes.map Process.state =
        [.exited 0, .exited 3, .stopped .tstp] ∧
      told.processes.find? (fun process => process.state.isStopped) =
        some process ∧
      process.pid = 12 ∧
      Concludes 2 told pausedAgain.jobs (.ok (.stopped 2 148))) ∧
    (pausedAgain.jobs.reap [(12, .noChange)]).1.map Job.serial = [] ∧
    pausedAgain.jobs.unmarked? 1 = pausedPipeline.jobs.unmarked? 1 ∧
    pausedAgain.jobs.owner? 20 = some 1 := by
  have about : ∀ entry ∈ heardIn pausedExchanges,
      entry.2.IsAbout entry.1 := by decide
  obtain ⟨_, _, concludes, _, quiet, elsewhere⟩ :=
    waitFor_as_told consistent_pausedPipeline rfl goes_waitFor_paused about
  obtain ⟨kept, owners⟩ := elsewhere 1 (by decide)
  exact ⟨consistent_pausedPipeline, rfl, goes_waitFor_paused, about,
    ⟨_, ⟨12, .stopped .tstp⟩, rfl, rfl, rfl, concludes⟩, by
    decide, kept, (owners 20).mpr rfl⟩

end Shell

end JobShell
