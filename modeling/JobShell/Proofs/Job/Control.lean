import JobShell.Job.Control
import JobShell.Proofs.Job.Lookup
import JobShell.Proofs.System.Outcome
import Mathlib.Logic.Relation

/-!
# What the calls of job control may come to

Nothing is assumed of the system: every reply may come.  Waiting makes a job the
current one, notes what the system says of its processes, and takes the job out
of the table or leaves it in the background as one that has stopped.  Every way
a wait can end is listed in `Waited`.
-/

namespace JobShell

namespace JobTable

/-- Some states of processes have been noted. -/
abbrev Records : JobTable → JobTable → Prop :=
  Relation.ReflTransGen fun table next => ∃ pid state,
    next = table.record pid state

theorem Records.invariant {law : JobTable → Prop}
    (kept : ∀ (table : JobTable) (pid : Pid) (state : ProcessState),
      law table → law (table.record pid state))
    {table next : JobTable} (records : Records table next)
    (holds : law table) : law next := by
  induction records with
  | refl => exact holds
  | tail _ step induction =>
      obtain ⟨pid, state, rfl⟩ := step
      exact kept _ pid state induction

theorem records_recordAnswer (table : JobTable) (pid : Pid)
    (answer : WaitAnswer) :
    Records table (table.recordAnswer pid answer) := by
  cases answer with
  | noChange => exact .refl
  | other => exact .refl
  | changed pid state => exact .single ⟨pid, state, rfl⟩
  | failed errno =>
      simp only [recordAnswer]
      split
      · exact .single ⟨pid, .exited 0, rfl⟩
      · exact .refl

theorem records_recordAnswers (table : JobTable)
    (answers : List (Pid × WaitAnswer)) :
    Records table (table.recordAnswers answers) := by
  induction answers generalizing table with
  | nil => exact .refl
  | cons entry answers induction =>
      have first := records_recordAnswer table entry.1 entry.2
      exact first.trans (induction _)

theorem serials_of_records {table next : JobTable}
    (records : Records table next) :
    next.serials = table.serials := by
  have kept : ∀ (noted : JobTable) (pid : Pid) (state : ProcessState),
      noted.serials = table.serials →
      (noted.record pid state).serials = table.serials :=
    fun noted pid state same => (serials_record noted pid state).trans same
  exact records.invariant kept rfl

/-- The table while the foreground is with the job of a serial. -/
def broughtForward (table : JobTable) (serial : Nat)
    (resume : Bool) : JobTable :=
  (table.update serial (Shell.toForeground resume)).makeCurrent serial

/-- The table after a job was left in the background because it has stopped. -/
def leftStopped (table : JobTable) (serial : Nat) : JobTable :=
  table.update serial fun job =>
    { job with background := true, reported := .stopped }

def resumed (table : JobTable) (serial : Nat) : JobTable :=
  (table.update serial
    fun job => { job.continued with background := true }).makeCurrent serial

inductive Waited (serial : Nat) (resume : Bool) (table : JobTable) :
    Except Failure WaitOutcome → JobTable → Prop where
  | unknown (absent : table.get? serial = none) :
      Waited serial resume table (.error (Shell.noSuchJob "fg" serial)) table
  | failed {noted : JobTable} (failure : Failure)
      (known : (table.get? serial).isSome)
      (records : Records (table.broughtForward serial resume) noted) :
      Waited serial resume table (.error failure) noted
  | finished {noted : JobTable} {job : Job} (known : (table.get? serial).isSome)
      (records : Records (table.broughtForward serial resume) noted)
      (found : noted.get? serial = some job) (done : job.state = .done) :
      Waited serial resume table (.ok (.exited job.exitStatus))
        (noted.remove serial).2
  | stopped {noted : JobTable} {job : Job} (known : (table.get? serial).isSome)
      (records : Records (table.broughtForward serial resume) noted)
      (found : noted.get? serial = some job) (live : job.state ≠ .done) :
      Waited serial resume table (.ok (.stopped serial job.exitStatus))
        (noted.leftStopped serial)

end JobTable

namespace Shell

open JobTable

variable {α : Type} {before after : Session}

@[simp] theorem mayEnd_job {command : String} {serial : Nat}
    {outcome : Except Failure Job} :
    (job command serial).MayEnd before outcome after ↔
      outcome = (before.jobs.get? serial).elim
        (.error (noSuchJob command serial)) .ok ∧
        after = before := by
  unfold job
  rw [mayEnd_get_bind]
  cases before.jobs.get? serial with
  | none => exact mayEnd_throw
  | some job => exact mayEnd_pure

/-- An action that begins with a look at a job goes on only with a known
serial. -/
theorem mayEnd_job_bind {command : String} {serial : Nat} {next : Job → Shell α}
    {outcome : Except Failure α} :
    (job command serial >>= next).MayEnd before outcome after ↔
      (∃ job, before.jobs.get? serial = some job ∧
        (next job).MayEnd before outcome after) ∨
      (before.jobs.get? serial = none ∧
        outcome = .error (noSuchJob command serial) ∧
        after = before) := by
  unfold job
  rw [bind_assoc, mayEnd_get_bind]
  cases before.jobs.get? serial with
  | none =>
      rw [mayEnd_bind]
      simp [and_comm]
  | some job => simp

theorem session_of_signalGroup {group : Pid} {signal : Signal}
    {outcome : Except Failure Unit}
    (ends : (signalGroup group signal).MayEnd before outcome after) :
    after = before := by
  unfold signalGroup at ends
  obtain ⟨sent, _, ends⟩ := mayEnd_lift_bind.mp ends
  cases sent with
  | ok _ => exact (mayEnd_pure.mp ends).2
  | error errno => exact (mayEnd_throw.mp ends).2

theorem records_of_awaitProcess {patience : Nat} {pid : Pid}
    {outcome : Except Failure Bool}
    (ends : (awaitProcess patience pid).MayEnd before outcome after) :
    Records before.jobs after.jobs := by
  induction patience generalizing before with
  | zero =>
      obtain ⟨_, _, _, rfl⟩ := mayEnd_lift.mp ends
      exact .refl
  | succ patience induction =>
      unfold awaitProcess at ends
      obtain ⟨answer, _, continues⟩ := mayEnd_lift_bind.mp ends
      rw [mayEnd_modifyJobs_bind] at continues
      have noted := records_recordAnswer before.jobs pid answer
      have again : (awaitProcess patience pid).MayEnd
          { before with jobs := before.jobs.recordAnswer pid answer }
            outcome after →
          Records before.jobs after.jobs := by
        intro goesOn
        have later := induction goesOn
        exact noted.trans later
      have stops : ∀ {stopped : Bool}, (pure stopped : Shell Bool).MayEnd
          { before with jobs := before.jobs.recordAnswer pid answer }
            outcome after →
          Records before.jobs after.jobs := by
        intro stopped ended
        rw [(mayEnd_pure.mp ended).2]
        exact noted
      split at continues
      · exact stops continues
      · exact again continues
      · exact again continues
      · exact again continues
      · exact stops continues
      · exact stops continues
      · split at continues
        · exact again continues
        · split at continues
          · exact stops continues
          · rw [(mayEnd_throw.mp continues).2]
            exact noted

theorem records_of_awaitProcesses {pids : List Pid}
    {outcome : Except Failure Unit}
    (ends : (awaitProcesses pids).MayEnd before outcome after) :
    Records before.jobs after.jobs := by
  induction pids generalizing before with
  | nil =>
      rw [(mayEnd_pure.mp ends).2]
  | cons pid pids induction =>
      unfold awaitProcesses at ends
      rcases mayEnd_bind.mp ends with ⟨stopped, between, first, continues⟩ |
        ⟨_, first, _⟩
      · have noted := records_of_awaitProcess first
        split at continues
        · rw [(mayEnd_pure.mp continues).2]
          exact noted
        · exact noted.trans (induction continues)
      · exact records_of_awaitProcess first

theorem mayEnd_discard_lift {activity : Activity α}
    {outcome : Except Failure Unit}
    (ends : (discard (liftM activity : Shell α)).MayEnd before outcome after) :
    outcome = .ok () ∧ after = before := by
  rw [discard_eq_bind] at ends
  obtain ⟨_, _, continues⟩ := mayEnd_lift_bind.mp ends
  exact mayEnd_pure.mp continues

theorem session_of_giveTerminal {group : Pid} {outcome : Except Failure Unit}
    (ends : (giveTerminal group).MayEnd before outcome after) :
    outcome = .ok () ∧ after = before := by
  unfold giveTerminal at ends
  rw [mayEnd_get_bind] at ends
  split at ends
  · exact mayEnd_discard_lift ends
  · exact mayEnd_pure.mp ends

theorem session_of_reclaimTerminal {outcome : Except Failure Unit}
    (ends : reclaimTerminal.MayEnd before outcome after) :
    outcome = .ok () ∧ after = before := by
  unfold reclaimTerminal at ends
  rw [mayEnd_get_bind] at ends
  exact session_of_giveTerminal ends

/-- What always succeeds and leaves the session alone may be passed over. -/
theorem mayEnd_of_steady_bind {action : Shell Unit} {next : Unit → Shell α}
    {outcome : Except Failure α}
    (steady : ∀ {outcome : Except Failure Unit} {after : Session},
      action.MayEnd before outcome after → outcome = .ok () ∧ after = before)
    (ends : (action >>= next).MayEnd before outcome after) :
    (next ()).MayEnd before outcome after := by
  rcases mayEnd_bind.mp ends with ⟨_, between, first, continues⟩ | ⟨_, first, _⟩
  · have same := (steady first).2
    rwa [same] at continues
  · cases (steady first).1

theorem mayEnd_settleForeground {serial : Nat} {job : Job}
    {outcome : Except Failure WaitOutcome}
    (found : before.jobs.get? serial = some job)
    (ends : (settleForeground serial).MayEnd before outcome after) :
    (job.state = .done ∧ outcome = .ok (.exited job.exitStatus) ∧
        after.jobs = (before.jobs.remove serial).2) ∨
      (job.state ≠ .done ∧ outcome = .ok (.stopped serial job.exitStatus) ∧
        after.jobs = before.jobs.leftStopped serial) := by
  unfold settleForeground at ends
  rw [mayEnd_get_bind] at ends
  simp only [found] at ends
  split at ends
  · next done =>
      rw [mayEnd_modifyJobs_bind] at ends
      obtain ⟨ended, rfl⟩ := mayEnd_pure.mp ends
      exact .inl ⟨done, ended, rfl⟩
  · next live =>
      rw [mayEnd_modifyJobs_bind] at ends
      obtain ⟨ended, rfl⟩ := mayEnd_pure.mp ends
      exact .inr ⟨live, ended, rfl⟩

theorem waited_of_settleForeground {table : JobTable} {serial : Nat}
    {resume : Bool} {outcome : Except Failure WaitOutcome}
    (known : (table.get? serial).isSome)
    (records : Records (table.broughtForward serial resume) before.jobs)
    (ends : (settleForeground serial).MayEnd before outcome after) :
    Waited serial resume table outcome after.jobs := by
  have stays : (before.jobs.get? serial).isSome := by
    rw [isSome_get?_iff] at known ⊢
    rw [serials_of_records records, broughtForward, serials_makeCurrent,
      serials_update]
    exact known
  obtain ⟨job, found⟩ := Option.isSome_iff_exists.mp stays
  rcases mayEnd_settleForeground found ends with ⟨done, rfl, left⟩ |
    ⟨live, rfl, left⟩
  · rw [left]
    exact .finished known records found done
  · rw [left]
    exact .stopped known records found live

theorem waited_of_mayEnd {serial : Nat} {resume : Bool}
    {outcome : Except Failure WaitOutcome}
    (ends : (waitFor serial resume).MayEnd before outcome after) :
    Waited serial resume before.jobs outcome after.jobs := by
  -- the part behind the signal, which is the same with and without one
  have waiting : ∀ {between : Session}, (before.jobs.get? serial).isSome →
      between.jobs = before.jobs.broughtForward serial resume →
      MayEnd (do
        let pids := (((← get).jobs.get? serial).map Job.livePids).getD []
        let waited ← attempt (awaitProcesses pids)
        Activity.setForeground none
        reclaimTerminal
        ofOutcome waited
        settleForeground serial) between outcome after →
      Waited serial resume before.jobs outcome after.jobs := by
    intro between known forward ends
    rw [mayEnd_get_bind] at ends
    obtain ⟨ended, noted, awaited, ends⟩ := mayEnd_attempt_bind.mp ends
    have records := records_of_awaitProcesses awaited
    rw [forward] at records
    obtain ⟨_, _, ends⟩ := mayEnd_lift_bind.mp ends
    have ends := mayEnd_of_steady_bind session_of_reclaimTerminal ends
    cases ended with
    | ok _ => exact waited_of_settleForeground known records ends
    | error failure =>
        rcases mayEnd_bind.mp ends with ⟨_, _, impossible, _⟩ | ⟨_, failed, rfl⟩
        · cases (mayEnd_throw.mp impossible).1
        · rw [(mayEnd_throw.mp failed).2]
          exact .failed _ known records
  unfold waitFor at ends
  rcases mayEnd_job_bind.mp ends with ⟨job, found, ends⟩ | ⟨absent, rfl, rfl⟩
  · have known : (before.jobs.get? serial).isSome := by
      rw [found]
      rfl
    rw [mayEnd_modifyJobs_bind] at ends
    have ends := mayEnd_of_steady_bind session_of_giveTerminal ends
    obtain ⟨_, _, ends⟩ := mayEnd_lift_bind.mp ends
    split at ends
    · exact waiting known rfl (mayEnd_of_steady_bind mayEnd_discard_lift ends)
    · exact waiting known rfl ends
  · exact .unknown absent

/-- A job that is told to go on in the background does so, or nothing
changes. -/
theorem jobs_of_resumeBackground {serial : Nat} {outcome : Except Failure Job}
    (ends : (resumeBackground serial).MayEnd before outcome after) :
    after.jobs = before.jobs ∨
      ((before.jobs.get? serial).isSome ∧
        after.jobs = before.jobs.resumed serial) := by
  unfold resumeBackground at ends
  rcases mayEnd_job_bind.mp ends with ⟨job, found, ends⟩ | ⟨_, _, rfl⟩
  · rcases mayEnd_bind.mp ends with ⟨_, between, sent, ends⟩ | ⟨_, sent, _⟩
    · rw [session_of_signalGroup sent, mayEnd_modifyJobs_bind] at ends
      rw [(mayEnd_job.mp ends).2, found]
      exact .inr ⟨rfl, rfl⟩
    · rw [session_of_signalGroup sent]
      exact .inl rfl
  · exact .inl rfl

theorem session_of_signalJob {serial : Nat} {signal : Signal}
    {outcome : Except Failure Unit}
    (ends : (signalJob serial signal).MayEnd before outcome after) :
    after = before := by
  unfold signalJob at ends
  rcases mayEnd_job_bind.mp ends with ⟨job, _, ends⟩ | ⟨_, _, same⟩
  · rcases mayEnd_bind.mp ends with ⟨_, between, sent, ends⟩ | ⟨_, sent, _⟩
    · rw [session_of_signalGroup sent] at ends
      split at ends
      · exact session_of_signalGroup ends
      · exact (mayEnd_pure.mp ends).2
    · exact session_of_signalGroup sent
  · exact same

theorem session_of_hangUpAll {outcome : Except Failure Unit}
    (ends : hangUpAll.MayEnd before outcome after) : after = before := by
  unfold hangUpAll at ends
  rw [mayEnd_get_bind] at ends
  obtain ⟨_, _, _, same⟩ := mayEnd_lift.mp ends
  exact same

theorem mayYield_poll {pids : List Pid} {answers : List (Pid × WaitAnswer)} :
    (poll pids).MayYield answers ↔ answers.map Prod.fst = pids := by
  induction pids generalizing answers with
  | nil =>
      rw [List.map_eq_nil_iff]
      exact Interaction.mayYield_pure
  | cons pid pids induction =>
      unfold poll
      simp only [Interaction.mayYield_bind, induction,
        Interaction.mayYield_pure]
      constructor
      · rintro ⟨answer, _, others, same, rfl⟩
        rw [List.map_cons, same]
      · intro same
        cases answers with
        | nil => cases same
        | cons entry others =>
            cases same
            exact ⟨entry.2, ⟨entry.2, rfl⟩, others, rfl, rfl⟩

/-- A look at the jobs takes in some answers, and gives the notices of them. -/
theorem mayEnd_reap {outcome : Except Failure (List Job)} :
    reap.MayEnd before outcome after ↔
      ∃ answers, (poll before.jobs.registered).MayYield answers ∧
        outcome = .ok (before.jobs.reap answers).1 ∧
        after = { before with jobs := (before.jobs.reap answers).2 } := by
  simp [reap, Except.map, and_assoc, and_comm]

end Shell

end JobShell
