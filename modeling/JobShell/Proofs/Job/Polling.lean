import JobShell.Proofs.Execution.JobList
import JobShell.Proofs.Job.Hearing
import Mathlib.Data.List.Permutation

/-!
# Looks in any order

The processes that a look goes through stand in no particular order.  What is
learnt of two processes can be noted in either order, for nothing is noted of
one of them that noting the other one reads; so a whole look leaves the same
table, and tells the same, whatever the order of its questions.  `Alike` says
that two tables hold the same and differ at most in that order.
-/

namespace JobShell

namespace Job

theorem recordIn_comm {first second : Pid} (different : first ≠ second)
    (state other : ProcessState) (processes : List Process) :
    recordIn second other (recordIn first state processes) =
      recordIn first state (recordIn second other processes) := by
  induction processes with
  | nil => rfl
  | cons process processes induction =>
      by_cases isFirst : process.pid = first
      · have notSecond : process.pid ≠ second := fun isSecond =>
          different (isFirst.symm.trans isSecond)
        simp only [recordIn, isFirst, different, if_true, if_false]
      · by_cases isSecond : process.pid = second
        · simp only [recordIn, isSecond, Ne.symm different, if_true, if_false]
        · simp only [recordIn, isFirst, isSecond, if_false, induction]

theorem record_comm {first second : Pid} (different : first ≠ second)
    (state other : ProcessState) (job : Job) :
    (job.record first state).record second other =
      (job.record second other).record first state := by
  simp only [record, recordIn_comm different]

end Job

namespace JobTable

section Record

variable (table : JobTable) (pid : Pid) (state : ProcessState)

/-- Whether a process has no owner any more when this state of it is noted. -/
def releases : Bool :=
  (table.owner? pid).any fun serial =>
    state.isFinished || (table.get? serial).isNone

/-- The jobs with the state noted in the one that owns the process. -/
def recordedEntries : List (Nat × Job) :=
  table.entries.map fun entry =>
    (entry.1, if table.owner? pid =
      some entry.1 then entry.2.record pid state else entry.2)

/-- The owners without the process, if it has none any more. -/
def recordedOwners : List (Pid × Nat) :=
  table.owners.filter fun entry => !(table.releases pid state && entry.1 == pid)

theorem record_eq :
    table.record pid state =
      { entries := table.recordedEntries pid state,
        owners := table.recordedOwners pid state } := by
  cases owner : table.owner? pid with
  | none =>
      have entries : table.recordedEntries pid state = table.entries := by
        simp [recordedEntries, owner]
      have owners : table.recordedOwners pid state = table.owners := by
        simp [recordedOwners, releases, owner]
      rw [entries, owners, record, owner]
  | some serial =>
      have entries : table.recordedEntries pid state =
          (table.update serial fun job => job.record pid state).entries := by
        unfold recordedEntries update
        rw [owner]
        simp only [Option.some.injEq, eq_comm]
      cases found : table.get? serial with
      | none =>
          -- no entry stands under the serial, and so none is changed
          have unchanged :
              (table.update serial fun job => job.record pid state).entries =
              table.entries := by
            have absent := List.lookup_eq_none_iff.mp found
            refine (List.map_congr_left fun entry member => ?_).trans
              (List.map_id _)
            have elsewhere : ¬entry.1 = serial := fun same => by
              simpa [same] using absent entry member
            exact Prod.ext rfl (if_neg elsewhere)
          have owners : table.recordedOwners pid state =
              (table.disown pid).owners := by
            simp [recordedOwners, releases, owner, found, disown, bne]
          have disowned : table.record pid state = table.disown pid := by
            simp [record, owner, found]
          rw [entries, unchanged, owners, disowned]
          rfl
      | some job =>
          rw [record_of_owner? owner found, entries]
          cases finished : state.isFinished with
          | true =>
              have owners : table.recordedOwners pid state =
                  (table.disown pid).owners := by
                simp [recordedOwners, releases, owner, finished, disown, bne]
              rw [owners]
              rfl
          | false =>
              have owners : table.recordedOwners pid state = table.owners := by
                simp [recordedOwners, releases, owner, found, finished]
              rw [owners]
              rfl

end Record

section RecordTwo

variable {first second : Pid} (different : first ≠ second) (table : JobTable)
  (state other : ProcessState)

include different

theorem owner?_record_of_ne :
    (table.record first state).owner? second = table.owner? second := by
  rw [record_eq]
  unfold owner? recordedOwners
  rw [lookup_filter_key fun key =>
    !(table.releases first state && key == first)]
  simp [Ne.symm different]

theorem releases_record_of_ne :
    (table.record first state).releases second other =
      table.releases second other := by
  unfold releases
  rw [owner?_record_of_ne different]
  congr 1
  funext serial
  have same : ((table.record first state).get? serial).isNone =
      (table.get? serial).isNone := by
    rcases get?_record_cases table first state serial with same | recorded
    · rw [same]
    · rw [recorded, Option.isNone_map]
  rw [same]

theorem recordedEntries_record :
    (table.record first state).recordedEntries second other =
      table.entries.map fun entry =>
        (entry.1,
          let noted :=
          if table.owner? first = some entry.1 then entry.2.record first state
            else entry.2
          if table.owner? second = some entry.1 then noted.record second other
          else noted) := by
  unfold recordedEntries
  rw [owner?_record_of_ne different, record_eq, recordedEntries, List.map_map]
  rfl

theorem recordedOwners_record :
    (table.record first state).recordedOwners second other =
      table.owners.filter fun entry =>
        !(table.releases second other && entry.1 == second) &&
          !(table.releases first state && entry.1 == first) := by
  unfold recordedOwners
  rw [releases_record_of_ne different, record_eq, recordedOwners,
    List.filter_filter]

/-- What becomes of one process has no bearing on what is noted of another
one. -/
theorem record_comm :
    (table.record first state).record second other =
      (table.record second other).record first state := by
  have entries : (table.record first state).recordedEntries second other =
      (table.record second other).recordedEntries first state := by
    rw [recordedEntries_record different,
      recordedEntries_record (Ne.symm different)]
    apply List.map_congr_left
    intro entry _
    dsimp only
    split <;> split <;> first | rfl | rw [Job.record_comm different]
  have owners : (table.record first state).recordedOwners second other =
      (table.record second other).recordedOwners first state := by
    rw [recordedOwners_record different,
      recordedOwners_record (Ne.symm different)]
    apply List.filter_congr
    intro entry _
    exact Bool.and_comm _ _
  rw [record_eq (table.record first state), entries, owners, ← record_eq]

end RecordTwo

section Answers

variable {answer : Pid → WaitAnswer} (about : ∀ pid, (answer pid).IsAbout pid)

include about

theorem recordAnswer_comm (table : JobTable) (first second : Pid) :
    (table.recordAnswer first (answer first)).recordAnswer second
      (answer second) =
      (table.recordAnswer second (answer second)).recordAnswer first
        (answer first) := by
  by_cases same : first = second
  · rw [same]
  · simp only [WaitAnswer.recordAnswer_of_isAbout (about _)]
    cases (answer first).told? with
    | none => rfl
    | some state =>
        cases (answer second).told? with
        | none => rfl
        | some other => exact record_comm same table state other

theorem recordAnswers_perm {order other : List Pid}
    (permutation : order.Perm other) (table : JobTable) :
    table.recordAnswers (order.map fun pid => (pid, answer pid)) =
      table.recordAnswers (other.map fun pid => (pid, answer pid)) := by
  unfold recordAnswers
  rw [List.foldl_map, List.foldl_map]
  refine permutation.foldl_eq' ?_ table
  intro first _ second _ table
  exact recordAnswer_comm about table first second

theorem reap_perm {order other : List Pid} (permutation : order.Perm other)
    (table : JobTable) :
    table.reap (order.map fun pid => (pid, answer pid)) =
      table.reap (other.map fun pid => (pid, answer pid)) := by
  unfold reap
  rw [recordAnswers_perm about permutation]

end Answers

/-- The jobs are the same, with their processes and marks, and every process has
the same owner, for which it stands once; the order in which the processes stand
may differ. -/
structure Alike (table other : JobTable) : Prop where
  entries : other.entries = table.entries
  owners : other.owners.Perm table.owners
  once : table.registered.Nodup

namespace Alike

variable {table other : JobTable} (alike : table.Alike other)

include alike

theorem get? (serial : Nat) : other.get? serial = table.get? serial := by
  unfold JobTable.get?
  rw [alike.entries]

theorem registered : other.registered.Perm table.registered :=
  alike.owners.map Prod.fst

theorem owner? (pid : Pid) : other.owner? pid = table.owner? pid := by
  have onceThere : other.registered.Nodup :=
    alike.registered.nodup_iff.mpr alike.once
  apply Option.ext
  intro serial
  unfold JobTable.owner?
  rw [lookup_eq_some_iff_mem onceThere, lookup_eq_some_iff_mem alike.once,
    alike.owners.mem_iff]

theorem filter {entries otherEntries : List (Nat × Job)}
    (same : otherEntries = entries) (keep : Pid × Nat → Bool) :
    Alike ⟨entries, table.owners.filter keep⟩
      ⟨otherEntries, other.owners.filter keep⟩ where
  entries := same
  owners := alike.owners.filter keep
  once := alike.once.sublist (List.filter_sublist.map Prod.fst)

theorem update (serial : Nat) (change : Job → Job) :
    (table.update serial change).Alike (other.update serial change) where
  entries := by rw [JobTable.update, alike.entries]; rfl
  owners := alike.owners
  once := alike.once

theorem makeCurrent (serial : Nat) :
    (table.makeCurrent serial).Alike (other.makeCurrent serial) where
  entries := by rw [JobTable.makeCurrent, alike.entries]; rfl
  owners := alike.owners
  once := alike.once

theorem strike (serial : Nat) (job : Job) :
    (table.strike serial job).Alike (other.strike serial job) :=
  alike.filter (by rw [alike.entries]) _

theorem remove (serial : Nat) :
    (table.remove serial).2.Alike (other.remove serial).2 := by
  cases found : table.get? serial with
  | none =>
      have foundThere := (alike.get? serial).trans found
      simpa only [JobTable.remove, found, foundThere] using alike
  | some job =>
      have foundThere := (alike.get? serial).trans found
      have struck := alike.strike serial job
      have jobs : (other.strike serial job).jobs =
          (table.strike serial job).jobs := by
        unfold JobTable.jobs
        rw [struck.entries]
      simp only [JobTable.remove, found, foundThere, jobs]
      split
      · exact struck
      · exact struck.makeCurrent _

theorem record (pid : Pid) (state : ProcessState) :
    (table.record pid state).Alike (other.record pid state) := by
  have entries : other.recordedEntries pid state =
      table.recordedEntries pid state := by
    unfold recordedEntries
    rw [alike.owner?, alike.entries]
  have releases : other.releases pid state = table.releases pid state := by
    unfold releases
    rw [alike.owner?]
    congr 1
    funext serial
    rw [alike.get?]
  rw [record_eq, record_eq, recordedOwners, recordedOwners, releases]
  exact alike.filter entries _

theorem recordAnswer (pid : Pid) (answer : WaitAnswer) :
    (table.recordAnswer pid answer).Alike (other.recordAnswer pid answer) := by
  cases answer with
  | changed named state => exact alike.record named state
  | failed errno =>
      simp only [JobTable.recordAnswer]
      split
      · exact alike.record pid (.exited 0)
      · exact alike
  | noChange => exact alike
  | other => exact alike

omit alike in
theorem recordAnswers {table other : JobTable} (alike : table.Alike other)
    (answers : List (Pid × WaitAnswer)) :
    (table.recordAnswers answers).Alike (other.recordAnswers answers) := by
  induction answers generalizing table other with
  | nil => exact alike
  | cons entry answers induction =>
      exact induction (alike.recordAnswer entry.1 entry.2)

theorem settleJob (serial : Nat) :
    (other.settleJob serial).1 = (table.settleJob serial).1 ∧
      (table.settleJob serial).2.Alike (other.settleJob serial).2 := by
  cases found : table.get? serial with
  | none =>
      rw [settleJob_of_none found,
        settleJob_of_none ((alike.get? serial).trans found)]
      exact ⟨rfl, alike⟩
  | some job =>
      have foundThere := (alike.get? serial).trans found
      by_cases told : job.state = job.reported
      · rw [settleJob_of_reported found told,
          settleJob_of_reported foundThere told]
        exact ⟨rfl, alike⟩
      · have news : job.reported ≠ job.state := Ne.symm told
        cases state : job.state with
        | done =>
            rw [state] at news
            rw [settleJob_of_done found state news,
              settleJob_of_done foundThere state news]
            refine ⟨rfl, ?_⟩
            exact (alike.update serial _).remove serial
        | stopped =>
            rw [state] at news
            rw [settleJob_of_stopped found state news,
              settleJob_of_stopped foundThere state news]
            refine ⟨rfl, ?_⟩
            exact (alike.update serial
              fun job => { job with reported := .stopped }).update serial
              fun job => { job with background := true }
        | running =>
            rw [state] at news
            rw [settleJob_of_running found state news,
              settleJob_of_running foundThere state news]
            refine ⟨rfl, ?_⟩
            exact alike.update serial fun job =>
              { job with reported := .running }

omit alike in
theorem settleAll {table other : JobTable} (alike : table.Alike other)
    (serials : List Nat) :
    (other.settleAll serials).1 = (table.settleAll serials).1 ∧
      (table.settleAll serials).2.Alike (other.settleAll serials).2 := by
  induction serials generalizing table other with
  | nil => exact ⟨rfl, alike⟩
  | cons serial serials induction =>
      obtain ⟨notices, alikeNext⟩ := alike.settleJob serial
      obtain ⟨others, alikeLast⟩ := induction alikeNext
      simp only [JobTable.settleAll, notices, others]
      exact ⟨trivial, alikeLast⟩

theorem reap (answers : List (Pid × WaitAnswer)) :
    (other.reap answers).1 = (table.reap answers).1 ∧
      (table.reap answers).2.Alike (other.reap answers).2 := by
  have recorded := alike.recordAnswers answers
  have serials : (other.recordAnswers answers).serials =
      (table.recordAnswers answers).serials := by
    unfold JobTable.serials
    rw [recorded.entries]
  unfold JobTable.reap
  simp only [serials]
  exact recorded.settleAll _

/-- Each table may go through its processes in its own order. -/
theorem reap_looks {answer : Pid → WaitAnswer}
    (about : ∀ pid, (answer pid).IsAbout pid) :
    (other.reap (other.looks answer)).1 = (table.reap (table.looks answer)).1 ∧
      (table.reap (table.looks answer)).2.Alike
        (other.reap (other.looks answer)).2 := by
  have inItsOrder : other.reap (other.looks answer) =
      other.reap (table.looks answer) :=
    reap_perm about alike.registered other
  rw [inItsOrder]
  exact alike.reap (table.looks answer)

end Alike

end JobTable

namespace Shell

open Activity JobTable

theorem withWaits_reap (answer : Pid → WaitAnswer) (session : Session) :
    withWaits answer
      (reap.run.run session : Activity (Except Failure (List Job) × Session)) =
      pure (.ok (session.jobs.reap (session.jobs.looks answer)).1,
        withLook session (session.jobs.looks answer)) := by
  rw [run_reap, withWaits_bind, withWaits_poll]
  rfl

/-- Whatever order the processes are looked at in, the table after the look is
the same and the same jobs are told of; and two shells whose tables hold the
same tell the same and go on with tables that hold the same, each with its own
order of looking. -/
theorem reap_in_any_order {answer : Pid → WaitAnswer}
    (about : ∀ pid, (answer pid).IsAbout pid) :
    (∀ (table : JobTable) (first second : Pid) (state other : ProcessState),
      first ≠ second →
      (table.record first state).record second other =
        (table.record second other).record first state) ∧
    (∀ (table : JobTable) (order : List Pid), order.Perm table.registered →
      table.reap (order.map fun pid => (pid, answer pid)) =
        table.reap (table.looks answer)) ∧
    (∀ before other : Session, before.jobs.Alike other.jobs →
      ∃ notices next nextOther,
        withWaits answer
          (reap.run.run before : Activity
            (Except Failure (List Job) × Session)) =
          pure (.ok notices, { before with jobs := next }) ∧
        withWaits answer
          (reap.run.run other : Activity
            (Except Failure (List Job) × Session)) =
          pure (.ok notices, { other with jobs := nextOther }) ∧
        next.Alike nextOther) := by
  refine ⟨?_, ?_, ?_⟩
  · intro table first second state other different
    exact record_comm different table state other
  · intro table order permutation
    exact reap_perm about permutation table
  · intro before other alike
    obtain ⟨notices, alikeNext⟩ := alike.reap_looks about
    refine ⟨_, _, _, withWaits_reap answer before, ?_, alikeNext⟩
    rw [withWaits_reap answer other, notices]
    rfl

/-- A pipeline that has stopped, behind it one that has finished, and a job that
goes on. -/
def mixed : JobTable :=
  let first := (JobTable.empty.add 100 [100, 101] "a | b" true).2
  let second := (first.add 200 [200, 201] "c | d" true).2
  (second.add 300 [300] "e" false).2.record 300 (.stopped .tstp)

def mixedAnswers (pid : Pid) : WaitAnswer :=
  if pid = 101 then .changed pid (.stopped .tstp)
  else if pid = 200 then .changed pid (.exited 2)
  else if pid = 201 then .failed .noChild
  else if pid = 300 then .changed pid .running
  else .noChange

theorem isAbout_mixedAnswers (pid : Pid) : (mixedAnswers pid).IsAbout pid := by
  unfold mixedAnswers
  repeat' split
  all_goals first | rfl | trivial

/-- The same jobs, with the processes in the opposite order. -/
def mixedBackwards : JobTable := { mixed with owners := mixed.owners.reverse }

theorem alike_mixedBackwards : mixed.Alike mixedBackwards where
  entries := rfl
  owners := List.reverse_perm _
  once := by decide

theorem reap_in_any_order_mixed :
    (∀ pid, (mixedAnswers pid).IsAbout pid) ∧
    ([300, 200, 101, 201, 100] : List Pid).Perm mixed.registered ∧
    mixed.reap ([300, 200, 101, 201, 100].map
      fun pid => (pid, mixedAnswers pid)) =
      mixed.reap (mixed.looks mixedAnswers) ∧
    (mixed.reap (mixed.looks mixedAnswers)).1.map
      (fun job => (job.serial, job.state)) =
      [(1, .stopped), (2, .done)] ∧
    mixed.registered ≠ mixedBackwards.registered ∧
    ∃ notices next nextOther,
      withWaits mixedAnswers
        (reap.run.run { Session.fresh 1 "/" .empty with jobs := mixed } :
          Activity (Except Failure (List Job) × Session)) =
        pure (.ok notices, { Session.fresh 1 "/" .empty with jobs := next }) ∧
      withWaits mixedAnswers
          (reap.run.run { Session.fresh 1 "/" .empty with
            jobs := mixedBackwards } :
            Activity (Except Failure (List Job) × Session)) =
        pure (.ok notices,
          { Session.fresh 1 "/" .empty with jobs := nextOther }) ∧
      next.Alike nextOther := by
  have permutation :
      ([300, 200, 101, 201, 100] : List Pid).Perm mixed.registered := by decide
  obtain ⟨_, same, runs⟩ := reap_in_any_order isAbout_mixedAnswers
  exact ⟨isAbout_mixedAnswers, permutation, same mixed _ permutation,
    by decide, by decide, runs _ _ alike_mixedBackwards⟩

end Shell

end JobShell
