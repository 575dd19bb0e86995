import JobShell.Machine.Calls
import JobShell.Proofs.Job.Hearing

/-!
# How processes end

The system knows the signal that has ended a process by its number, and a job
table knows it by its name.  Some numbers have no name.  A process that has been
ended by such a signal is in no state that a table could note, and who waits for
it is given a failure in place of its end.
-/

namespace JobShell

theorem Signal.number_of_ofNumber? {number : Nat} {signal : Signal}
    (named : ofNumber? number = some signal) : signal.number = number := by
  simpa using List.find?_some named

/-- The signals with a name are those from 1 to 31. -/
theorem Signal.ofNumber?_eq_none_iff {number : Nat} :
    ofNumber? number = none ↔ number = 0 ∨ 31 < number := by
  simp only [ofNumber?, all, List.find?_eq_none, List.forall_mem_cons,
    Signal.number, beq_iff_eq]
  simp only [List.not_mem_nil, false_implies, implies_true, and_true]
  omega

namespace ProcessEnd

/-- The state that a table notes for an end.  The end by a signal without a name
has none. -/
def state? : ProcessEnd → Option ProcessState
  | exited status => some (.exited status)
  | killed number => (Signal.ofNumber? number).map .killed

/-- The exit status that an end stands for. -/
def status : ProcessEnd → Int
  | exited status => status
  | killed number => 128 + number

variable {ended : ProcessEnd} {state : ProcessState}

theorem isFinished_of_state? (named : ended.state? = some state) :
    state.isFinished = true := by
  cases ended with
  | exited status =>
      cases named
      rfl
  | killed number =>
      obtain ⟨signal, _, rfl⟩ := Option.map_eq_some_iff.mp named
      rfl

theorem status_of_state? (named : ended.state? = some state) :
    state.status = ended.status := by
  cases ended with
  | exited status =>
      cases named
      rfl
  | killed number =>
      obtain ⟨signal, found, rfl⟩ := Option.map_eq_some_iff.mp named
      rw [status, ProcessState.status, Signal.number_of_ofNumber? found]

theorem state?_eq_none_iff :
    ended.state? = none ↔
      ∃ number, ended = killed number ∧ (number = 0 ∨ 31 < number) := by
  cases ended with
  | exited status => simp [state?]
  | killed number => simp [state?, Signal.ofNumber?_eq_none_iff]

end ProcessEnd

/-- What is relied on where the end of a child is told: it is told as a state if
there is one for it, and as a failure if not.  That failure is neither the one
of a wait that is broken off nor the one of a process that is no child. -/
structure TellsEnds (tell : Pid → ProcessEnd → WaitAnswer) : Prop where
  named {pid : Pid} {ended : ProcessEnd} {state : ProcessState} :
    ended.state? = some state → tell pid ended = .changed pid state
  nameless (pid : Pid) {ended : ProcessEnd} : ended.state? = none →
    ∃ errno, tell pid ended = .failed errno ∧ errno ≠ .interrupted ∧
      errno ≠ .noChild

theorem tellsEnds_answerOfEnd : TellsEnds Machine.answerOfEnd where
  named := by
    intro pid ended state named
    cases ended with
    | exited status =>
        cases named
        rfl
    | killed number =>
        obtain ⟨signal, found, rfl⟩ := Option.map_eq_some_iff.mp named
        rw [Machine.answerOfEnd, found]
  nameless := by
    intro pid ended nameless
    cases ended with
    | exited status => cases nameless
    | killed number =>
        have unknown := Option.map_eq_none_iff.mp nameless
        refine ⟨.invalidArgument, ?_, by decide, by decide⟩
        rw [Machine.answerOfEnd, unknown]

/-- An answer to a wait for a child that ends like this: it is told how the
child has ended, or the wait goes on. -/
inductive WaitAnswer.Awaits (tell : Pid → ProcessEnd → WaitAnswer)
    (ended : ProcessEnd) (pid : Pid) : WaitAnswer → Prop where
  | told : Awaits tell ended pid (tell pid ended)
  | earlier {answer : WaitAnswer} (goesOn : answer.verdict? = none)
      (about : answer.IsAbout pid) : Awaits tell ended pid answer

/-- All answers are to waits for children that end like this. -/
def AwaitEnds (tell : Pid → ProcessEnd → WaitAnswer) (ends : Pid → ProcessEnd)
    (answers : List (Pid × WaitAnswer)) : Prop :=
  ∀ entry ∈ answers, entry.2.Awaits tell (ends entry.1) entry.1

section Ends

variable {tell : Pid → ProcessEnd → WaitAnswer} {ends : Pid → ProcessEnd}
  {pid : Pid} {pids : List Pid} {answers : List (Pid × WaitAnswer)}
  {verdict conclusion : Except Failure Bool} {state : ProcessState}

theorem TellsEnds.verdict?_named (tells : TellsEnds tell)
    (named : (ends pid).state? = some state) :
    (tell pid (ends pid)).verdict? = some (.ok false) := by
  rw [tells.named named]
  have finished := ProcessEnd.isFinished_of_state? named
  cases state with
  | running => cases finished
  | stopped signal => cases finished
  | exited status => rfl
  | killed signal => rfl

theorem TellsEnds.verdict?_nameless (tells : TellsEnds tell)
    (nameless : (ends pid).state? = none) :
    ∃ errno, (tell pid (ends pid)).verdict? =
      some (.error (.system errno)) := by
  obtain ⟨errno, failed, goesNotOn, isChild⟩ := tells.nameless pid nameless
  refine ⟨errno, ?_⟩
  rw [failed, WaitAnswer.verdict?, if_neg goesNotOn, if_neg isChild]

theorem TellsEnds.isAbout (tells : TellsEnds tell) {ended : ProcessEnd}
    {answer : WaitAnswer} (awaits : answer.Awaits tell ended pid) :
    answer.IsAbout pid := by
  cases awaits with
  | earlier _ about => exact about
  | told =>
      cases known : ended.state? with
      | some state =>
          rw [tells.named known]
          rfl
      | none =>
          obtain ⟨errno, failed, _⟩ := tells.nameless pid known
          rw [failed]
          trivial

/-- A wait comes to its verdict by the end of the child. -/
theorem Hears.verdict?_tell (hears : Hears pid answers verdict)
    (awaits : AwaitEnds tell ends answers) :
    (tell pid (ends pid)).verdict? = some verdict := by
  induction hears with
  | @last answer verdict settled =>
      have own : answer.Awaits tell (ends pid) pid :=
        awaits (pid, answer) (List.mem_singleton_self _)
      cases own with
      | told => exact settled
      | earlier goesOn _ =>
          rw [goesOn] at settled
          cases settled
  | again _ _ induction =>
      exact induction fun entry member =>
        awaits entry (List.mem_cons_of_mem _ member)

/-- A wait is over with a child that has ended with a name, and fails at one
that has ended without. -/
theorem Hears.verdict_cases (hears : Hears pid answers verdict)
    (tells : TellsEnds tell) (awaits : AwaitEnds tell ends answers) :
    (∃ state, (ends pid).state? = some state ∧ verdict = .ok false) ∨
      ((ends pid).state? = none ∧
        ∃ errno, verdict = .error (.system errno)) := by
  have settled := hears.verdict?_tell awaits
  cases known : (ends pid).state? with
  | some state =>
      rw [tells.verdict?_named known] at settled
      exact .inl ⟨state, rfl, (Option.some.inj settled).symm⟩
  | none =>
      obtain ⟨errno, fails⟩ := tells.verdict?_nameless known
      rw [fails] at settled
      exact .inr ⟨rfl, errno, (Option.some.inj settled).symm⟩

theorem Hears.lastTold_of_named (hears : Hears pid answers verdict)
    (tells : TellsEnds tell) (awaits : AwaitEnds tell ends answers)
    (named : (ends pid).state? = some state) :
    lastTold answers pid = some state := by
  induction hears with
  | @last answer verdict settled =>
      have own : answer.Awaits tell (ends pid) pid :=
        awaits (pid, answer) (List.mem_singleton_self _)
      rw [lastTold_singleton_self]
      cases own with
      | told =>
          rw [tells.named named]
          rfl
      | earlier goesOn _ =>
          rw [goesOn] at settled
          cases settled
  | again _ _ induction =>
      exact lastTold_cons_of_some (induction fun entry member =>
        awaits entry (List.mem_cons_of_mem _ member))

/-- Nothing is told of a process but that it runs, and how it has ended. -/
theorem AwaitEnds.lastTold_eq (awaits : AwaitEnds tell ends answers)
    (tells : TellsEnds tell) (told : lastTold answers pid = some state) :
    state = .running ∨ (ends pid).state? = some state := by
  obtain ⟨⟨asked, answer⟩, listed, own⟩ :=
    List.mem_filterMap.mp (List.mem_of_getLast? told)
  split at own
  · next same =>
      have same : asked = pid := same
      subst same
      have awaited : answer.Awaits tell (ends asked) asked := awaits _ listed
      cases awaited with
      | told =>
          cases known : (ends asked).state? with
          | some named =>
              rw [tells.named known] at own
              exact .inr own
          | none =>
              obtain ⟨errno, failed, _, isChild⟩ :=
                tells.nameless asked known
              rw [failed, WaitAnswer.told?, if_neg isChild] at own
              cases own
      | earlier goesOn _ =>
          rcases WaitAnswer.told?_of_verdict?_none goesOn with nothing | running
          · cases nothing.symm.trans own
          · cases running.symm.trans own
            exact .inl rfl
  · cases own

/-- Where all ends have a name, all are told. -/
theorem HearsAll.lastTold_of_named (hears : HearsAll pids answers conclusion)
    (tells : TellsEnds tell) (awaits : AwaitEnds tell ends answers)
    (named : ∀ pid ∈ pids, (ends pid).state? ≠ none) :
    ∀ pid ∈ pids, lastTold answers pid = (ends pid).state? := by
  induction hears with
  | nobody => nofun
  | @finished first pids early late conclusion hears later induction =>
      intro pid member
      have others := induction
        (fun entry listed => awaits entry (List.mem_append_right _ listed))
        fun other listed => named other (List.mem_cons_of_mem _ listed)
      obtain ⟨state, known⟩ := Option.ne_none_iff_exists'.mp (named pid member)
      rw [lastTold_append, known]
      by_cases again : pid ∈ pids
      · rw [others pid again, known, Option.some_or]
      · have silent : lastTold late pid = none :=
          lastTold_eq_none fun entry listed same =>
            again (same ▸ later.asked entry listed)
        obtain rfl | listed := List.mem_cons.mp member
        · rw [silent, Option.none_or]
          exact hears.lastTold_of_named tells
            (fun entry listed => awaits entry (List.mem_append_left _ listed))
            known
        · exact absurd listed again
  | stopped hears =>
      rcases hears.verdict_cases tells awaits with
        ⟨_, _, impossible⟩ | ⟨_, _, impossible⟩
      · cases impossible
      · cases impossible
  | failed hears =>
      rcases hears.verdict_cases tells awaits with
        ⟨_, _, impossible⟩ | ⟨nameless, _⟩
      · cases impossible
      · exact absurd nameless (named _ List.mem_cons_self)

/-- The first end without a name is where a wait fails. -/
theorem HearsAll.conclusion_of_nameless
    (hears : HearsAll pids answers conclusion) (tells : TellsEnds tell)
    (awaits : AwaitEnds tell ends answers)
    (nameless : ∃ pid ∈ pids, (ends pid).state? = none) :
    ∃ errno, conclusion = .error (.system errno) := by
  induction hears with
  | nobody =>
      obtain ⟨_, impossible, _⟩ := nameless
      cases impossible
  | @finished first pids early late conclusion hears later induction =>
      obtain ⟨pid, member, unknown⟩ := nameless
      apply induction fun entry listed =>
        awaits entry (List.mem_append_right _ listed)
      obtain rfl | listed := List.mem_cons.mp member
      · rcases hears.verdict_cases tells fun entry listed =>
          awaits entry (List.mem_append_left _ listed) with
          ⟨_, known, _⟩ | ⟨_, _, impossible⟩
        · cases known.symm.trans unknown
        · cases impossible
      · exact ⟨pid, listed, unknown⟩
  | stopped hears =>
      rcases hears.verdict_cases tells awaits with
        ⟨_, _, impossible⟩ | ⟨_, _, impossible⟩
      · cases impossible
      · cases impossible
  | failed hears =>
      rcases hears.verdict_cases tells awaits with
        ⟨_, _, impossible⟩ | ⟨_, errno, same⟩
      · cases impossible
      · cases same
        exact ⟨errno, rfl⟩

variable {job : Job}

/-- The processes of a job that has been waited for have ended as they are
told. -/
theorem HearsAll.state?_of_named (hears : HearsAll job.pids answers conclusion)
    (tells : TellsEnds tell) (awaits : AwaitEnds tell ends answers)
    (named : ∀ pid ∈ job.pids, (ends pid).state? ≠ none) :
    ∀ process ∈ (job.heard answers).processes,
      (ends process.pid).state? = some process.state := by
  intro process listed
  obtain ⟨before, listedBefore, rfl⟩ := Job.mem_processes_heard.mp listed
  have member : before.pid ∈ job.pids := List.mem_map_of_mem listedBefore
  obtain ⟨state, known⟩ := Option.ne_none_iff_exists'.mp (named _ member)
  rw [hears.lastTold_of_named tells awaits named _ member, known]
  rfl

/-- Nobody is told to have stopped. -/
theorem AwaitEnds.isStopped_heard (awaits : AwaitEnds tell ends answers)
    (tells : TellsEnds tell)
    (running : ∀ process ∈ job.processes, process.state = .running) :
    ∀ process ∈ (job.heard answers).processes,
      process.state.isStopped = false := by
  intro process listed
  obtain ⟨before, listedBefore, rfl⟩ := Job.mem_processes_heard.mp listed
  cases told : lastTold answers before.pid with
  | none =>
      rw [Option.getD_none, running before listedBefore]
      rfl
  | some state =>
      rw [Option.getD_some]
      rcases awaits.lastTold_eq tells told with rfl | named
      · rfl
      · have finished := ProcessEnd.isFinished_of_state? named
        cases state <;> first | rfl | cases finished

/-- Who has ended without a name is taken to live on. -/
theorem AwaitEnds.mem_livePids_heard (awaits : AwaitEnds tell ends answers)
    (tells : TellsEnds tell) (live : pid ∈ job.livePids)
    (nameless : (ends pid).state? = none) :
    pid ∈ (job.heard answers).livePids := by
  refine Job.mem_livePids_heard_of_mem live fun state told => ?_
  rcases awaits.lastTold_eq tells told with rfl | named
  · rfl
  · cases nameless.symm.trans named

end Ends

end JobShell
