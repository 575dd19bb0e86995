import JobShell.Proofs.Job.Reaping

/-!
# What is told of the processes of a job

The answers to questions about processes, one after the other, tell states of
them; the last state told of a process is the one it is in.  `HearsAll` lists
the answers that a wait for some processes takes in before it comes to its
conclusion.  Where every answer is about the process that was asked for, the
table follows: the job under one serial gets the states that were told, and the
other jobs stay as they are.
-/

namespace JobShell

namespace WaitAnswer

/-- The answer is no news of another process than the one that was asked for. -/
def IsAbout (pid : Pid) : WaitAnswer → Prop
  | changed named _ => named = pid
  | noChange | other | failed _ => True

instance decidableIsAbout (pid : Pid) :
    (answer : WaitAnswer) → Decidable (answer.IsAbout pid)
  | changed named _ => inferInstanceAs (Decidable (named = pid))
  | noChange | other | failed _ => inferInstanceAs (Decidable True)

/-- What the answer says about the state of the process.  One that is no child
any more has exited. -/
def told? : WaitAnswer → Option ProcessState
  | changed _ state => some state
  | failed errno => if errno = .noChild then some (.exited 0) else none
  | noChange | other => none

/-- What the answer means for a wait: that it is over, with a process that has
stopped or not, or with a failure; or that it goes on. -/
def verdict? : WaitAnswer → Option (Except Failure Bool)
  | changed _ (.stopped _) => some (.ok true)
  | changed _ (.exited _) | changed _ (.killed _) => some (.ok false)
  | changed _ .running | noChange | other => none
  | failed errno =>
    if errno = .interrupted then none
    else if errno = .noChild then some (.ok false)
    else some (.error (.system errno))

variable {answer : WaitAnswer}

theorem recordAnswer_of_isAbout {pid : Pid} (about : answer.IsAbout pid)
    (table : JobTable) :
    table.recordAnswer pid answer =
      answer.told?.elim table (table.record pid) := by
  cases answer with
  | changed named state =>
      obtain rfl : named = pid := about
      rfl
  | failed errno =>
      simp only [JobTable.recordAnswer, told?]
      split <;> rfl
  | noChange => rfl
  | other => rfl

/-- While a wait goes on, nothing is told of an end. -/
theorem told?_of_verdict?_none (goesOn : answer.verdict? = none) :
    answer.told? = none ∨ answer.told? = some .running := by
  cases answer with
  | changed pid state => cases state <;> simp_all [verdict?, told?]
  | failed errno =>
      simp only [verdict?] at goesOn
      split at goesOn
      · next interrupted =>
          subst interrupted
          exact .inl rfl
      · split at goesOn <;> cases goesOn
  | noChange => exact .inl rfl
  | other => exact .inl rfl

theorem told?_of_verdict?_stopped
    (stopped : answer.verdict? = some (.ok true)) :
    ∃ signal, answer.told? = some (.stopped signal) := by
  cases answer with
  | changed pid state => cases state <;> simp_all [verdict?, told?]
  | failed errno =>
      simp only [verdict?] at stopped
      split at stopped
      · cases stopped
      · split at stopped <;> cases stopped
  | noChange => cases stopped
  | other => cases stopped

theorem told?_of_verdict?_finished
    (finished : answer.verdict? = some (.ok false)) :
    ∃ state, answer.told? = some state ∧ state.isFinished = true := by
  cases answer with
  | changed pid state =>
      cases state <;> simp_all [verdict?, told?, ProcessState.isFinished]
  | failed errno =>
      simp only [verdict?] at finished
      split at finished
      · cases finished
      · split at finished
        · next gone => exact ⟨.exited 0, by simp [told?, gone], rfl⟩
        · cases finished
  | noChange => cases finished
  | other => cases finished

theorem eq_failed_of_verdict?_error {failure : Failure}
    (failed : answer.verdict? = some (.error failure)) :
    ∃ errno, answer = .failed errno ∧ errno ≠ .interrupted ∧ errno ≠ .noChild ∧
      failure = .system errno := by
  cases answer with
  | changed pid state => cases state <;> simp [verdict?] at failed
  | failed errno =>
      simp only [verdict?] at failed
      split at failed
      · cases failed
      · next notInterrupted =>
          split at failed
          · cases failed
          · next known =>
              cases failed
              exact ⟨errno, rfl, notInterrupted, known, rfl⟩
  | noChange => cases failed
  | other => cases failed

theorem told?_of_verdict?_error {failure : Failure}
    (failed : answer.verdict? = some (.error failure)) :
    answer.told? = none := by
  obtain ⟨errno, rfl, _, known, _⟩ := eq_failed_of_verdict?_error failed
  simp [told?, known]

end WaitAnswer

/-- The last state that the answers tell of a process. -/
def lastTold (answers : List (Pid × WaitAnswer))
    (pid : Pid) : Option ProcessState :=
  (answers.filterMap fun entry => if entry.1 =
    pid then entry.2.told? else none).getLast?

section LastTold

variable {pid : Pid} {answers : List (Pid × WaitAnswer)}

@[simp] theorem lastTold_append (first second : List (Pid × WaitAnswer))
    (pid : Pid) :
    lastTold (first ++ second) pid =
      (lastTold second pid).or (lastTold first pid) := by
  unfold lastTold
  rw [List.filterMap_append, List.getLast?_append]

theorem lastTold_singleton_self (pid : Pid) (answer : WaitAnswer) :
    lastTold [(pid, answer)] pid = answer.told? := by
  unfold lastTold
  cases told : answer.told? with
  | none => simp [told]
  | some state => simp [told]

theorem lastTold_eq_none (silent : ∀ entry ∈ answers, entry.1 ≠ pid) :
    lastTold answers pid = none := by
  unfold lastTold
  rw [List.getLast?_eq_none_iff, List.filterMap_eq_nil_iff]
  intro entry member
  rw [if_neg (silent entry member)]

end LastTold

namespace Job

/-- The job with its processes in the states last told of them. -/
def heard (job : Job) (answers : List (Pid × WaitAnswer)) : Job :=
  { job with
    processes := job.processes.map fun process =>
      { process with
        state := (lastTold answers process.pid).getD process.state } }

section Heard

variable {job : Job} {pid other : Pid} {answers : List (Pid × WaitAnswer)}

@[simp] theorem heard_nil (job : Job) : job.heard [] = job := by
  have kept : (job.processes.map fun process =>
      { process with state := (lastTold [] process.pid).getD process.state }) =
        job.processes :=
    List.map_id job.processes
  rw [heard, kept]

@[simp] theorem heard_append (job : Job)
    (first second : List (Pid × WaitAnswer)) :
    job.heard (first ++ second) = (job.heard first).heard second := by
  simp only [heard, List.map_map]
  congr 1
  apply List.map_congr_left
  intro process _
  simp only [Function.comp_apply, lastTold_append]
  cases lastTold second process.pid <;> rfl

theorem pids_heard (job : Job) (answers : List (Pid × WaitAnswer)) :
    (job.heard answers).pids = job.pids := by
  simp [pids, heard, Function.comp_def]

theorem mem_processes_heard {process : Process} :
    process ∈ (job.heard answers).processes ↔
      ∃ before ∈ job.processes,
        { before with
          state := (lastTold answers before.pid).getD before.state } =
            process :=
  List.mem_map

/-- Where a number stands for one process only, noting a state puts that process
into it. -/
theorem recordIn_eq_map {pid : Pid} {state : ProcessState}
    {processes : List Process} (distinct : (processes.map Process.pid).Nodup) :
    recordIn pid state processes =
      processes.map fun process =>
        if process.pid = pid then { process with state } else process := by
  induction processes with
  | nil => rfl
  | cons process processes induction =>
      rw [List.map_cons, List.nodup_cons] at distinct
      unfold recordIn
      rw [List.map_cons]
      split
      · next same =>
          have others : (processes.map fun process =>
              if process.pid = pid then { process with state } else process) =
                processes := by
            refine (List.map_congr_left fun later member =>
              if_neg fun sameToo => ?_).trans (List.map_id processes)
            exact distinct.1
              (List.mem_map.mpr ⟨later, member, sameToo.trans same.symm⟩)
          rw [others]
      · rw [induction distinct.2]

theorem heard_singleton (distinct : job.pids.Nodup) (pid : Pid)
    (answer : WaitAnswer) :
    job.heard [(pid, answer)] = answer.told?.elim job (job.record pid) := by
  have single : ∀ process : Process,
      (lastTold [(pid, answer)] process.pid).getD process.state =
        if process.pid = pid then answer.told?.getD process.state
        else process.state := by
    intro process
    split
    · next same => rw [same, lastTold_singleton_self]
    · next different =>
        rw [lastTold_eq_none]
        · rfl
        · intro entry member
          rw [List.mem_singleton.mp member]
          exact Ne.symm different
  cases told : answer.told? with
  | none =>
      have kept : (job.processes.map fun process =>
          { process with
            state :=
              (lastTold [(pid, answer)] process.pid).getD process.state }) =
          job.processes := by
        refine (List.map_congr_left fun process _ => ?_).trans
          (List.map_id job.processes)
        rw [single, told]
        split <;> rfl
      rw [heard, kept]
      rfl
  | some state =>
      change _ = job.record pid state
      rw [record, recordIn_eq_map distinct, heard]
      congr 1
      apply List.map_congr_left
      intro process _
      rw [single, told]
      split <;> rfl

theorem mem_livePids_heard : pid ∈ (job.heard answers).livePids ↔
    ∃ process ∈ job.processes, process.pid = pid ∧
      ((lastTold answers pid).getD process.state).isFinished = false := by
  rw [mem_livePids]
  constructor
  · rintro ⟨_, listed, same, live⟩
    obtain ⟨process, listedBefore, rfl⟩ := mem_processes_heard.mp listed
    change process.pid = pid at same
    exact ⟨process, listedBefore, same, by rwa [same] at live⟩
  · rintro ⟨process, listed, rfl, live⟩
    exact ⟨_, mem_processes_heard.mpr ⟨process, listed, rfl⟩, rfl, live⟩

/-- Who is not told to have finished lives on. -/
theorem mem_livePids_heard_of_mem (live : pid ∈ job.livePids)
    (unfinished : ∀ state, lastTold answers pid = some state →
      state.isFinished = false) :
    pid ∈ (job.heard answers).livePids := by
  obtain ⟨process, listed, same, alive⟩ := mem_livePids.mp live
  refine mem_livePids_heard.mpr ⟨process, listed, same, ?_⟩
  cases told : lastTold answers pid with
  | none => exact alive
  | some state => exact unfinished state told

theorem nodup_livePids (distinct : job.pids.Nodup) : job.livePids.Nodup :=
  distinct.sublist (List.filter_sublist.map Process.pid)

theorem state_heard_eq_done
    (finished : ∀ pid ∈ job.livePids, ∃ state,
      lastTold answers pid = some state ∧
      state.isFinished = true)
    (silent : ∀ entry ∈ answers, entry.1 ∈ job.livePids)
    (distinct : job.pids.Nodup) :
    (job.heard answers).state = .done := by
  rw [state_eq_done_iff]
  intro process listed
  obtain ⟨before, listedBefore, rfl⟩ := mem_processes_heard.mp listed
  cases ended : before.state.isFinished with
  | true =>
      -- nothing was asked about a process that had finished
      rw [lastTold_eq_none]
      · exact ended
      · intro entry member same
        obtain ⟨other, listedOther, samePid, live⟩ :=
          mem_livePids.mp (silent entry member)
        have itself : other = before :=
          List.inj_on_of_nodup_map distinct listedOther listedBefore
            (samePid.trans same)
        rw [itself, ended] at live
        cases live
  | false =>
      obtain ⟨state, told, finished⟩ :=
        finished before.pid
          (mem_livePids.mpr ⟨before, listedBefore, rfl, ended⟩)
      rw [told]
      exact finished

end Heard

end Job

/-- The answers of a wait for one process, and what it comes to. -/
inductive Hears (pid : Pid) :
    List (Pid × WaitAnswer) → Except Failure Bool → Prop where
  | last {answer : WaitAnswer} {verdict : Except Failure Bool}
      (settled : answer.verdict? = some verdict) :
        Hears pid [(pid, answer)] verdict
  | again {answer : WaitAnswer} {answers : List (Pid × WaitAnswer)}
      {verdict : Except Failure Bool} (goesOn : answer.verdict? = none)
      (later : Hears pid answers verdict) :
      Hears pid ((pid, answer) :: answers) verdict

/-- The answers of a wait for some processes in turn, up to the first one that
stops. -/
inductive HearsAll : List Pid → List (Pid × WaitAnswer) →
    Except Failure Bool → Prop where
  | nobody : HearsAll [] [] (.ok false)
  | finished {pid : Pid} {pids : List Pid}
      {first answers : List (Pid × WaitAnswer)}
      {conclusion : Except Failure Bool} (hears : Hears pid first (.ok false))
      (later : HearsAll pids answers conclusion) :
      HearsAll (pid :: pids) (first ++ answers) conclusion
  | stopped {pid : Pid} {pids : List Pid} {answers : List (Pid × WaitAnswer)}
      (hears : Hears pid answers (.ok true)) :
        HearsAll (pid :: pids) answers (.ok true)
  | failed {pid : Pid} {pids : List Pid} {answers : List (Pid × WaitAnswer)}
      {failure : Failure} (hears : Hears pid answers (.error failure)) :
      HearsAll (pid :: pids) answers (.error failure)

section Hears

variable {pid : Pid} {pids : List Pid} {answers : List (Pid × WaitAnswer)}
  {verdict conclusion : Except Failure Bool}

theorem Hears.asked (hears : Hears pid answers verdict) :
    ∀ entry ∈ answers, entry.1 = pid := by
  induction hears with
  | last _ =>
      intro entry member
      rw [List.mem_singleton.mp member]
  | again _ _ induction =>
      intro entry member
      rcases List.mem_cons.mp member with rfl | later
      · rfl
      · exact induction entry later

theorem HearsAll.asked (hears : HearsAll pids answers conclusion) :
    ∀ entry ∈ answers, entry.1 ∈ pids := by
  induction hears with
  | nobody => nofun
  | finished first _ induction =>
      intro entry member
      rcases List.mem_append.mp member with early | late
      · exact List.mem_cons.mpr (.inl (first.asked entry early))
      · exact List.mem_cons_of_mem _ (induction entry late)
  | stopped hears =>
      exact fun entry member =>
        List.mem_cons.mpr (.inl (hears.asked entry member))
  | failed hears =>
      exact fun entry member =>
        List.mem_cons.mpr (.inl (hears.asked entry member))

theorem lastTold_cons_of_some {answer : WaitAnswer} {state : ProcessState}
    (told : lastTold answers pid = some state) :
    lastTold ((pid, answer) :: answers) pid = some state := by
  have shape := lastTold_append [(pid, answer)] answers pid
  rw [told, Option.some_or] at shape
  exact shape

theorem Hears.lastTold_of_finished (hears : Hears pid answers verdict)
    (finished : verdict = .ok false) :
    ∃ state, lastTold answers pid = some state ∧ state.isFinished = true := by
  induction hears with
  | last settled =>
      rw [lastTold_singleton_self]
      exact WaitAnswer.told?_of_verdict?_finished (finished ▸ settled)
  | again _ _ induction =>
      obtain ⟨state, told, ended⟩ := induction finished
      exact ⟨state, lastTold_cons_of_some told, ended⟩

theorem Hears.lastTold_of_stopped (hears : Hears pid answers verdict)
    (stopped : verdict = .ok true) :
    ∃ signal, lastTold answers pid = some (.stopped signal) := by
  induction hears with
  | last settled =>
      rw [lastTold_singleton_self]
      exact WaitAnswer.told?_of_verdict?_stopped (stopped ▸ settled)
  | again _ _ induction =>
      obtain ⟨signal, told⟩ := induction stopped
      exact ⟨signal, lastTold_cons_of_some told⟩

/-- A wait that fails has not heard of an end. -/
theorem Hears.lastTold_of_failed (hears : Hears pid answers verdict)
    {failure : Failure} (failed : verdict = .error failure) :
    ∀ state, lastTold answers pid = some state → state.isFinished = false := by
  induction hears with
  | last settled =>
      rw [lastTold_singleton_self,
        WaitAnswer.told?_of_verdict?_error (failed ▸ settled)]
      nofun
  | @again answer answers verdict goesOn _ induction =>
      intro state told
      have shape := lastTold_append [(pid, answer)] answers pid
      rw [List.singleton_append, lastTold_singleton_self, told] at shape
      cases later : lastTold answers pid with
      | some other =>
          rw [later, Option.some_or] at shape
          cases shape
          exact induction failed state later
      | none =>
          rw [later, Option.none_or] at shape
          rcases WaitAnswer.told?_of_verdict?_none goesOn with nothing | running
          · rw [nothing] at shape
            cases shape
          · rw [running] at shape
            cases shape
            rfl

theorem HearsAll.lastTold_of_finished (hears : HearsAll pids answers conclusion)
    (finished : conclusion = .ok false) :
    ∀ pid ∈ pids, ∃ state,
      lastTold answers pid = some state ∧ state.isFinished = true := by
  induction hears with
  | nobody => nofun
  | @finished first pids early late conclusion hears later induction =>
      intro pid member
      rw [lastTold_append]
      by_cases again : pid ∈ pids
      · obtain ⟨state, told, ended⟩ := induction finished pid again
        exact ⟨state, by rw [told, Option.some_or], ended⟩
      · obtain rfl | listed := List.mem_cons.mp member
        · have silent : lastTold late pid = none :=
            lastTold_eq_none fun entry listed same =>
              again (same ▸ later.asked entry listed)
          rw [silent, Option.none_or]
          exact hears.lastTold_of_finished rfl
        · exact absurd listed again
  | stopped _ => cases finished
  | failed _ => cases finished

theorem HearsAll.lastTold_of_stopped (hears : HearsAll pids answers conclusion)
    (stopped : conclusion = .ok true) :
    ∃ pid ∈ pids, ∃ signal, lastTold answers pid = some (.stopped signal) := by
  induction hears with
  | nobody => cases stopped
  | finished _ _ induction =>
      obtain ⟨pid, member, signal, told⟩ := induction stopped
      exact ⟨pid, List.mem_cons_of_mem _ member, signal, by
        simp [told]⟩
  | stopped hears =>
      obtain ⟨signal, told⟩ := hears.lastTold_of_stopped rfl
      exact ⟨_, List.mem_cons_self, signal, told⟩
  | failed _ => cases stopped

theorem HearsAll.lastTold_of_failed (hears : HearsAll pids answers conclusion)
    {failure : Failure} (failed : conclusion = .error failure)
    (distinct : pids.Nodup) :
    ∃ pid ∈ pids, ∀ state,
      lastTold answers pid = some state → state.isFinished = false := by
  induction hears with
  | nobody => cases failed
  | @finished first pids early late conclusion hears later induction =>
      obtain ⟨different, distinct⟩ := List.nodup_cons.mp distinct
      obtain ⟨pid, member, unfinished⟩ := induction failed distinct
      have silent : lastTold early pid = none :=
        lastTold_eq_none fun entry listed same =>
          different (hears.asked entry listed ▸ same ▸ member)
      refine ⟨pid, List.mem_cons_of_mem _ member, ?_⟩
      rwa [lastTold_append, silent, Option.or_none]
  | stopped _ => cases failed
  | failed hears => exact ⟨_, List.mem_cons_self, hears.lastTold_of_failed rfl⟩

theorem Hears.exists_failed (hears : Hears pid answers verdict)
    {failure : Failure} (failed : verdict = .error failure) :
    ∃ errno,
      (pid, .failed errno) ∈ answers ∧ errno ≠ .interrupted ∧ errno ≠ .noChild ∧
      failure = .system errno := by
  induction hears with
  | last settled =>
      obtain ⟨errno, rfl, reason⟩ :=
        WaitAnswer.eq_failed_of_verdict?_error (failed ▸ settled)
      exact ⟨errno, List.mem_singleton_self _, reason⟩
  | again _ _ induction =>
      obtain ⟨errno, member, reason⟩ := induction failed
      exact ⟨errno, List.mem_cons_of_mem _ member, reason⟩

theorem HearsAll.exists_failed (hears : HearsAll pids answers conclusion)
    {failure : Failure} (failed : conclusion = .error failure) :
    ∃ pid errno,
      (pid, .failed errno) ∈ answers ∧ errno ≠ .interrupted ∧ errno ≠ .noChild ∧
      failure = .system errno := by
  induction hears with
  | nobody => cases failed
  | finished _ _ induction =>
      obtain ⟨pid, errno, member, reason⟩ := induction failed
      exact ⟨pid, errno, List.mem_append_right _ member, reason⟩
  | stopped _ => cases failed
  | failed hears =>
      cases failed
      exact ⟨_, hears.exists_failed rfl⟩

variable {job : Job}

/-- When all have been waited for, the job is done. -/
theorem HearsAll.state_eq_done
    (hears : HearsAll job.livePids answers (.ok false))
    (distinct : job.pids.Nodup) : (job.heard answers).state = .done :=
  Job.state_heard_eq_done (hears.lastTold_of_finished rfl) hears.asked distinct

theorem HearsAll.exists_stopped
    (hears : HearsAll job.livePids answers (.ok true)) :
    ∃ process ∈ (job.heard answers).processes,
      process.state.isStopped = true := by
  obtain ⟨pid, live, signal, told⟩ := hears.lastTold_of_stopped rfl
  obtain ⟨process, listed, rfl, _⟩ := Job.mem_livePids.mp live
  refine ⟨_, Job.mem_processes_heard.mpr ⟨process, listed, rfl⟩, ?_⟩
  rw [told]
  rfl

theorem HearsAll.state_ne_done {failure : Failure}
    (hears : HearsAll job.livePids answers (.error failure))
    (distinct : job.pids.Nodup) :
    (job.heard answers).state ≠ .done := by
  obtain ⟨pid, live, unfinished⟩ :=
    hears.lastTold_of_failed rfl (Job.nodup_livePids distinct)
  obtain ⟨process, listed, _, alive⟩ :=
    Job.mem_livePids.mp (Job.mem_livePids_heard_of_mem live unfinished)
  intro done
  rw [Job.state_eq_done_iff.mp done process listed] at alive
  cases alive

end Hears

namespace JobTable

/-- The table has the job in the states that were told, and all else as it
was. -/
structure Follows (table : JobTable) (serial : Nat) (job : Job)
    (answers : List (Pid × WaitAnswer)) (next : JobTable) : Prop where
  consistent : next.Consistent
  here : next.get? serial = some (job.heard answers)
  elsewhere : ∀ key, key ≠ serial → next.get? key = table.get? key

section Follows

variable {table next : JobTable} {serial : Nat} {job : Job} {pid : Pid}
  {pids : List Pid}
  {answers : List (Pid × WaitAnswer)} {verdict conclusion : Except Failure Bool}

@[simp] theorem recordAnswers_append (table : JobTable)
    (first second : List (Pid × WaitAnswer)) :
    table.recordAnswers (first ++ second) =
      (table.recordAnswers first).recordAnswers second :=
  List.foldl_append

theorem follows_nil (consistent : table.Consistent)
    (found : table.get? serial = some job) :
    table.Follows serial job [] (table.recordAnswers []) where
  consistent := consistent
  here := by
    rw [Job.heard_nil]
    exact found
  elsewhere _ _ := rfl

theorem Follows.append {first second : List (Pid × WaitAnswer)}
    (follows : table.Follows serial job first (table.recordAnswers first))
    (later : (table.recordAnswers first).Follows serial (job.heard first) second
      ((table.recordAnswers first).recordAnswers second)) :
    table.Follows serial job (first ++ second)
      (table.recordAnswers (first ++ second)) := by
  rw [recordAnswers_append]
  refine ⟨later.consistent, ?_, ?_⟩
  · rw [Job.heard_append]
    exact later.here
  · intro key different
    rw [later.elsewhere key different, follows.elsewhere key different]

/-- An answer about a live process of the job goes to the job. -/
theorem follows_answer (consistent : table.Consistent)
    (found : table.get? serial = some job) (live : pid ∈ job.livePids)
    {answer : WaitAnswer} (about : answer.IsAbout pid) :
    table.Follows serial job [(pid, answer)]
      (table.recordAnswers [(pid, answer)]) := by
  have noted : table.recordAnswers [(pid, answer)] =
      answer.told?.elim table (table.record pid) :=
    WaitAnswer.recordAnswer_of_isAbout about table
  have distinct := consistent.distinct found
  have owner := (consistent.owned pid serial).mpr ⟨job, found, live⟩
  rw [noted]
  cases told : answer.told? with
  | none =>
      refine ⟨consistent, ?_, fun _ _ => rfl⟩
      rw [Job.heard_singleton distinct, told]
      exact found
  | some state =>
      refine ⟨consistent.record pid state, ?_, ?_⟩
      · rw [Job.heard_singleton distinct, told]
        change (table.record pid state).get? serial =
          some (job.record pid state)
        rw [get?_record owner found, found, Option.map_some, if_pos rfl]
      · intro key different
        change (table.record pid state).get? key = table.get? key
        rw [get?_record owner found]
        cases table.get? key with
        | none => rfl
        | some other => simp [different]

end Follows

end JobTable

section Follows

open JobTable

variable {table next : JobTable} {serial : Nat} {job : Job} {pid : Pid}
  {pids : List Pid}
  {answers : List (Pid × WaitAnswer)} {verdict conclusion : Except Failure Bool}

theorem Hears.follows (hears : Hears pid answers verdict)
    (consistent : table.Consistent) (found : table.get? serial = some job)
    (live : pid ∈ job.livePids)
    (about : ∀ entry ∈ answers, entry.2.IsAbout entry.1) :
    table.Follows serial job answers (table.recordAnswers answers) := by
  induction hears generalizing table job with
  | last _ =>
      exact follows_answer consistent found live
        (about _ (List.mem_singleton_self _))
  | @again answer answers verdict goesOn _ induction =>
      have first :=
        follows_answer consistent found live (about _ List.mem_cons_self)
      have alive : pid ∈ (job.heard [(pid, answer)]).livePids := by
        apply Job.mem_livePids_heard_of_mem live
        intro state told
        rw [lastTold_singleton_self] at told
        rcases WaitAnswer.told?_of_verdict?_none goesOn with nothing | running
        · rw [nothing] at told
          cases told
        · rw [running] at told
          cases told
          rfl
      have later :=
        induction first.consistent first.here alive fun entry member =>
          about entry (List.mem_cons_of_mem _ member)
      exact first.append later

/-- What a wait for live processes hears, the table takes in. -/
theorem HearsAll.follows (hears : HearsAll pids answers conclusion)
    (consistent : table.Consistent) (found : table.get? serial = some job)
    (live : ∀ pid ∈ pids, pid ∈ job.livePids) (distinct : pids.Nodup)
    (about : ∀ entry ∈ answers, entry.2.IsAbout entry.1) :
    table.Follows serial job answers (table.recordAnswers answers) := by
  induction hears generalizing table job with
  | nobody => exact follows_nil consistent found
  | @finished pid pids early late conclusion hears _ induction =>
      obtain ⟨different, distinct⟩ := List.nodup_cons.mp distinct
      have first :=
        hears.follows consistent found (live pid List.mem_cons_self)
          fun entry member =>
            about entry (List.mem_append_left _ member)
      have alive : ∀ other ∈ pids, other ∈ (job.heard early).livePids := by
        intro other member
        apply Job.mem_livePids_heard_of_mem
          (live other (List.mem_cons_of_mem _ member))
        rw [lastTold_eq_none fun entry listed same =>
          different (hears.asked entry listed ▸ same ▸ member)]
        nofun
      have later :=
        induction first.consistent first.here alive distinct fun entry member =>
          about entry (List.mem_append_right _ member)
      exact first.append later
  | stopped hears =>
      exact hears.follows consistent found (live _ List.mem_cons_self) about
  | failed hears =>
      exact hears.follows consistent found (live _ List.mem_cons_self) about

end Follows

end JobShell
