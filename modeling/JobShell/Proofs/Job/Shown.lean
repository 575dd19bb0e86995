import JobShell.Proofs.Job.Ending

/-!
# What the table shows of a process

A process is shown by the job that owns it.  Noting a state changes what is
shown of this process only, and takes a process that has finished off the
register; settling the jobs changes neither the register nor what is shown by
the jobs that stay.

A child is told to the shell by the answer to a look at it.  An end without a
name is answered with a failure, and the table never comes to have it.
-/

namespace JobShell

theorem Job.eq_of_mem_processes {job : Job} (distinct : job.pids.Nodup)
    {process other : Process} (listed : process ∈ job.processes)
    (listedToo : other ∈ job.processes)
    (same : process.pid = other.pid) : process = other :=
  List.inj_on_of_nodup_map distinct listed listedToo same

namespace JobTable

/-- The job has the process in this state, or is gone. -/
def Shows (table : JobTable) (serial : Nat) (pid : Pid)
    (state : ProcessState) : Prop :=
  ∀ job, table.get? serial = some job → { pid, state } ∈ job.processes

variable {table : JobTable} {serial : Nat} {pid other : Pid}
  {shown state : ProcessState}

theorem mem_registered_iff : pid ∈ table.registered ↔
    ∃ serial, table.owner? pid = some serial := by
  rw [← Option.isSome_iff_exists, owner?, List.lookup_isSome_iff, registered,
    List.mem_map]
  constructor
  · rintro ⟨entry, member, rfl⟩
    exact ⟨entry, member, beq_self_eq_true _⟩
  · rintro ⟨entry, member, same⟩
    exact ⟨entry, member, (beq_iff_eq.mp same).symm⟩

/-- What is shown of a process on the register is that it lives. -/
theorem Shows.isFinished (shows : table.Shows serial pid shown)
    (consistent : table.Consistent)
    (owner : table.owner? pid = some serial) : shown.isFinished = false := by
  obtain ⟨job, found, live⟩ := (consistent.owned pid serial).mp owner
  obtain ⟨process, listed, same, unfinished⟩ := Job.mem_livePids.mp live
  cases Job.eq_of_mem_processes (consistent.distinct found) listed
    (shows job found) same
  exact unfinished

section Record

theorem owner?_record_of_consistent (consistent : table.Consistent) (pid : Pid)
    (state : ProcessState) (other : Pid) :
    (table.record pid state).owner? other =
      if state.isFinished ∧ other = pid then none else table.owner? other := by
  cases owner : table.owner? pid with
  | none =>
      have kept : table.record pid state = table := by simp [record, owner]
      rw [kept]
      split
      · next both => rw [both.2, owner]
      · rfl
  | some serial =>
      obtain ⟨job, found, _⟩ := (consistent.owned pid serial).mp owner
      exact owner?_record owner found state other

theorem Shows.record (shows : table.Shows serial other shown)
    (different : other ≠ pid) :
    (table.record pid state).Shows serial other shown := by
  intro job found
  rcases get?_record_cases table pid state serial with same | recorded
  · exact shows job (same ▸ found)
  · rw [recorded] at found
    obtain ⟨before, foundBefore, rfl⟩ := Option.map_eq_some_iff.mp found
    exact (Job.mem_recordIn_of_ne different).mpr (shows before foundBefore)

theorem shows_record_self (consistent : table.Consistent)
    (owner : table.owner? pid = some serial) :
    (table.record pid state).Shows serial pid state := by
  obtain ⟨job, found, live⟩ := (consistent.owned pid serial).mp owner
  intro noted foundNoted
  rw [get?_record owner found, found, Option.map_some, if_pos rfl] at foundNoted
  cases foundNoted
  exact (Job.mem_recordIn_self (consistent.distinct found) rfl).mpr
    ⟨rfl, job.livePids_subset_pids live⟩

end Record

@[simp] theorem recordAnswers_concat (table : JobTable)
    (answers : List (Pid × WaitAnswer)) (pid : Pid)
    (answer : WaitAnswer) : table.recordAnswers (answers ++ [(pid, answer)]) =
      (table.recordAnswers answers).recordAnswer pid answer :=
  List.foldl_append ..

section Settle

variable {recorded next : JobTable} {notices : List Job}

theorem Reaps.before (reaps : Reaps recorded notices next) {job : Job}
    (found : next.get? serial = some job) :
    ∃ before, recorded.get? serial = some before ∧
      job.processes = before.processes := by
  obtain ⟨before, foundBefore, same⟩ := reaps.kept serial job found
  exact ⟨before, foundBefore, (congrArg Job.processes same :)⟩

/-- A job with a live process stays, with its processes as they are. -/
theorem Reaps.get?_of_live (reaps : Reaps recorded notices next) {job : Job}
    (found : recorded.get? serial = some job) (live : pid ∈ job.livePids) :
    ∃ later,
      next.get? serial = some later ∧ later.processes = job.processes := by
  have stays : next.get? serial ≠ none := by
    rw [Ne, reaps.removed serial job found]
    intro finished
    obtain ⟨process, listed, _, unfinished⟩ := Job.mem_livePids.mp live
    rw [finished process listed] at unfinished
    cases unfinished
  obtain ⟨later, foundLater⟩ := Option.ne_none_iff_exists'.mp stays
  obtain ⟨before, foundBefore, same⟩ := reaps.before foundLater
  cases found.symm.trans foundBefore
  exact ⟨later, foundLater, same⟩

theorem Reaps.owner?_eq (reaps : Reaps recorded notices next)
    (consistent : recorded.Consistent) (later : next.Consistent)
    (pid : Pid) : next.owner? pid = recorded.owner? pid := by
  apply Option.ext
  intro serial
  rw [later.owned, consistent.owned]
  constructor
  · rintro ⟨job, found, live⟩
    obtain ⟨before, foundBefore, processes⟩ := reaps.before found
    exact ⟨before, foundBefore, by rwa [Job.livePids, processes] at live⟩
  · rintro ⟨job, found, live⟩
    obtain ⟨kept, foundKept, processes⟩ := reaps.get?_of_live found live
    exact ⟨kept, foundKept, by rwa [Job.livePids, processes]⟩

theorem Shows.reaps (shows : recorded.Shows serial pid shown)
    (reaps : Reaps recorded notices next) : next.Shows serial pid shown := by
  intro job found
  obtain ⟨before, foundBefore, processes⟩ := reaps.before found
  exact processes ▸ shows before foundBefore

end Settle

end JobTable

/-- How a child is. -/
inductive ChildState where
  | running
  | stopped (signal : Signal)
  | ended (outcome : ProcessEnd)
  deriving DecidableEq, Repr

namespace ChildState

def isFinished : ChildState → Bool
  | ended _ => true
  | _ => false

/-- The state that a table notes for it, if there is one. -/
def state? : ChildState → Option ProcessState
  | running => some .running
  | stopped signal => some (.stopped signal)
  | ended outcome => outcome.state?

variable {child : ChildState}

theorem isFinished_of_state? {state : ProcessState}
    (named : child.state? = some state) :
    state.isFinished = child.isFinished := by
  cases child with
  | running =>
      cases named
      rfl
  | stopped signal =>
      cases named
      rfl
  | ended outcome => exact ProcessEnd.isFinished_of_state? named

theorem isFinished_of_nameless (nameless : child.state? = none) :
    child.isFinished = true := by
  cases child with
  | running => cases nameless
  | stopped signal => cases nameless
  | ended outcome => rfl

end ChildState

/-- A child as the system knows it: how it is, and whether the last change has
still to be told.  `unrecorded` says that no answer has brought that change to
the shell. -/
structure Child where
  state : ChildState
  untold : Bool
  unrecorded : Bool
  deriving DecidableEq, Repr

/-- The answer tells a state of the process. -/
def WaitAnswer.tellsState : WaitAnswer → Bool
  | changed .. => true
  | _ => false

namespace Child

/-- The child after a look at it that has been answered like this. -/
def lookedAt (child : Child) (answer : WaitAnswer) : Child :=
  { child with
    untold := false
    unrecorded := child.unrecorded && !answer.tellsState }

/-- A child that has changed. -/
def changed (state : ChildState) : Child :=
  { state, untold := true, unrecorded := true }

end Child

/-- What is relied on where a child is looked at.  The last change is told if
the state has a name, and answered with a failure if it has none; either way it
has been told then, and a child that has finished is no child any more. -/
structure TellsChanges (look : Pid → Child → WaitAnswer) : Prop where
  news {pid : Pid} {child : Child} {state : ProcessState} :
    child.untold = true → child.state.state? = some state →
      look pid child = .changed pid state
  nameless (pid : Pid) {child : Child} :
    child.untold = true → child.state.state? = none →
      ∃ errno, look pid child = .failed errno ∧ errno ≠ .noChild
  quiet {pid : Pid} {child : Child} :
    child.untold = false → child.state.isFinished = false →
      look pid child = .noChange
  gone {pid : Pid} {child : Child} :
    child.untold = false → child.state.isFinished = true →
      look pid child = .failed .noChild

theorem TellsChanges.isAbout {look : Pid → Child → WaitAnswer}
    (tells : TellsChanges look) (pid : Pid) (child : Child) :
    (look pid child).IsAbout pid := by
  cases untold : child.untold with
  | true =>
      cases known : child.state.state? with
      | some state =>
          rw [tells.news untold known]
          rfl
      | none =>
          obtain ⟨errno, failed, _⟩ := tells.nameless pid untold known
          rw [failed]
          trivial
  | false =>
      cases finished : child.state.isFinished with
      | true =>
          rw [tells.gone untold finished]
          trivial
      | false =>
          rw [tells.quiet untold finished]
          trivial

namespace JobTable

/-- The table has the process of this job in this state. -/
structure Has (table : JobTable) (serial : Nat) (pid : Pid)
    (state : ProcessState) : Prop where
  register : table.owner? pid = if state.isFinished then none else some serial
  shown : table.Shows serial pid state

section Has

variable {table next : JobTable} {serial : Nat} {pid other : Pid}
  {state : ProcessState} {answer : WaitAnswer}

/-- A process that is alive has its job in the table. -/
theorem Has.isSome (has : table.Has serial pid state)
    (consistent : table.Consistent) (alive : state.isFinished = false) :
    (table.get? serial).isSome := by
  have register := has.register
  rw [alive, if_neg Bool.false_ne_true] at register
  obtain ⟨job, found, _⟩ := (consistent.owned pid serial).mp register
  exact Option.isSome_of_eq_some found

theorem has_record_self (consistent : table.Consistent)
    (owner : table.owner? pid = some serial) :
    (table.record pid state).Has serial pid state where
  register := by
    rw [owner?_record_of_consistent consistent, owner]
    simp
  shown := shows_record_self consistent owner

theorem owner?_recordAnswer_of_ne (consistent : table.Consistent)
    (about : answer.IsAbout pid) (different : other ≠ pid) :
    (table.recordAnswer pid answer).owner? other = table.owner? other := by
  rw [WaitAnswer.recordAnswer_of_isAbout about]
  cases answer.told? with
  | none => rfl
  | some state =>
      exact (owner?_record_of_consistent consistent pid state other).trans
        (if_neg fun both => different both.2)

theorem Shows.recordAnswer (shows : table.Shows serial other state)
    (about : answer.IsAbout pid) (different : other ≠ pid) :
    (table.recordAnswer pid answer).Shows serial other state := by
  rw [WaitAnswer.recordAnswer_of_isAbout about]
  cases answer.told? with
  | none => exact shows
  | some _ => exact shows.record different

/-- Nobody gets an owner by an answer. -/
theorem owner?_of_recordAnswer (consistent : table.Consistent)
    (about : answer.IsAbout pid)
    (owner : (table.recordAnswer pid answer).owner? other = some serial) :
    table.owner? other = some serial := by
  rw [WaitAnswer.recordAnswer_of_isAbout about] at owner
  cases told : answer.told? with
  | none =>
      rw [told] at owner
      exact owner
  | some state =>
      rw [told, Option.elim_some,
        owner?_record_of_consistent consistent] at owner
      split at owner
      · cases owner
      · exact owner

end Has

end JobTable

/-- What the table has of a child that belongs to this job.  An end without a
name is missed by a look, and after another one the child is taken for one that
exited. -/
inductive Child.Noted (table : JobTable) (serial : Nat) (pid : Pid)
    (child : Child) : Prop where
  | awaited (untold : child.untold = true)
      (unrecorded : child.unrecorded = true)
      (owner : table.owner? pid = some serial) : Noted table serial pid child
  | known {state : ProcessState} (told : child.untold = false)
      (recorded : child.unrecorded = false)
      (named : child.state.state? = some state)
      (has : table.Has serial pid state) : Noted table serial pid child
  | missed (told : child.untold = false) (unrecorded : child.unrecorded = true)
      (nameless : child.state.state? = none)
      (owner : table.owner? pid = some serial) : Noted table serial pid child
  | mistaken (told : child.untold = false)
      (unrecorded : child.unrecorded = true)
      (nameless : child.state.state? = none)
      (has : table.Has serial pid (.exited 0)) : Noted table serial pid child

namespace Child.Noted

variable {table next : JobTable} {serial : Nat} {pid other : Pid}
  {child : Child} {answer : WaitAnswer} {look : Pid → Child → WaitAnswer}

theorem owner_of_untold (noted : child.Noted table serial pid)
    (untold : child.untold = true) : table.owner? pid = some serial := by
  cases noted with
  | awaited _ _ owner => exact owner
  | known told _ _ _ => cases told.symm.trans untold
  | missed told _ _ _ => cases told.symm.trans untold
  | mistaken told _ _ _ => cases told.symm.trans untold

/-- What is told of others changes nothing here. -/
theorem recordAnswer (noted : child.Noted table serial other)
    (consistent : table.Consistent) (about : answer.IsAbout pid)
    (different : other ≠ pid) :
    child.Noted (table.recordAnswer pid answer) serial other := by
  have owner := JobTable.owner?_recordAnswer_of_ne consistent about different
  cases noted with
  | awaited untold unrecorded own =>
      exact .awaited untold unrecorded (owner.trans own)
  | known told recorded named has =>
      exact .known told recorded named
        ⟨owner.trans has.register, has.shown.recordAnswer about different⟩
  | missed told unrecorded nameless own =>
      exact .missed told unrecorded nameless (owner.trans own)
  | mistaken told unrecorded nameless has =>
      exact .mistaken told unrecorded nameless
        ⟨owner.trans has.register, has.shown.recordAnswer about different⟩

/-- A look brings in the last change if it has a name. -/
theorem lookedAt (noted : child.Noted table serial pid)
    (consistent : table.Consistent) (tells : TellsChanges look)
    (owner : table.owner? pid = some serial) :
    (child.lookedAt (look pid child)).Noted
      (table.recordAnswer pid (look pid child)) serial pid := by
  cases noted with
  | awaited untold unrecorded _ =>
      cases known : child.state.state? with
      | some state =>
          rw [tells.news untold known]
          refine .known rfl ?_ known (JobTable.has_record_self consistent owner)
          simp [Child.lookedAt, WaitAnswer.tellsState]
      | none =>
          obtain ⟨errno, failed, isChild⟩ := tells.nameless pid untold known
          rw [failed, JobTable.recordAnswer, if_neg isChild]
          refine .missed rfl ?_ known owner
          simp [Child.lookedAt, WaitAnswer.tellsState, unrecorded]
  | known told recorded named has =>
      -- a child that has finished would not be on the register any more
      have alive : child.state.isFinished = false := by
        have register := has.register
        rw [ChildState.isFinished_of_state? named, owner] at register
        rw [Bool.eq_false_iff]
        intro finished
        rw [if_pos finished] at register
        cases register
      rw [tells.quiet told alive]
      refine .known rfl ?_ named has
      simp [Child.lookedAt, recorded]
  | missed told unrecorded nameless _ =>
      rw [tells.gone told (ChildState.isFinished_of_nameless nameless)]
      refine .mistaken rfl ?_ nameless
        (JobTable.has_record_self consistent owner)
      simp [Child.lookedAt, WaitAnswer.tellsState, unrecorded]
  | mistaken _ _ _ has => cases owner.symm.trans has.register

theorem reaps {notices : List Job} (noted : child.Noted table serial pid)
    (reaps : JobTable.Reaps table notices next) (consistent : table.Consistent)
    (later : next.Consistent) : child.Noted next serial pid := by
  have owner := reaps.owner?_eq consistent later pid
  cases noted with
  | awaited untold unrecorded own =>
      exact .awaited untold unrecorded (owner.trans own)
  | known told recorded named has =>
      exact .known told recorded named
        ⟨owner.trans has.register, has.shown.reaps reaps⟩
  | missed told unrecorded nameless own =>
      exact .missed told unrecorded nameless (owner.trans own)
  | mistaken told unrecorded nameless has =>
      exact .mistaken told unrecorded nameless
        ⟨owner.trans has.register, has.shown.reaps reaps⟩

end Child.Noted

end JobShell
