import JobShell.Proofs.Job.Departure
import JobShell.Proofs.Job.Likeness

/-!
# What the job list shows

The list is made of the table and of the answers to a look at its processes.  A
process is counted as finished when the answer says that it has ended, and also
when it is no child of the one who asks.  Among those who ask for their own
children the second means that somebody has heard of the end before.
-/

namespace JobShell

namespace WaitAnswer

/-- What a parent is told of a child in this state.  Only of a child that has
finished it may be told that there is none.  A look may fail, whatever the child
is in. -/
inductive Tells (pid : Pid) (actual : ProcessState) : WaitAnswer → Prop where
  | noChange (live : actual.isFinished = false) : Tells pid actual .noChange
  | changed : Tells pid actual (.changed pid actual)
  | other (live : actual.isFinished = false) : Tells pid actual .other
  | gone (finished : actual.isFinished = true) :
      Tells pid actual (.failed .noChild)
  | failed {errno : Errno} (different : errno ≠ .noChild) :
      Tells pid actual (.failed errno)

/-- The answer is none of the failures that tell nothing. -/
def isHeard : WaitAnswer → Bool
  | failed errno => errno = .noChild
  | noChange | changed .. | other => true

end WaitAnswer

namespace Job

theorem mem_livePids_record_of_live {job : Job} {pid other : Pid}
    {state : ProcessState} (live : other ∈ job.livePids)
    (spared : state.isFinished = true → other ≠ pid) :
    other ∈ (job.record pid state).livePids := by
  obtain ⟨process, listed, rfl, unfinished⟩ := mem_livePids.mp live
  apply mem_livePids.mpr
  by_cases same : process.pid = pid
  · -- the first process of this number gets the state
    have goesOn : state.isFinished = false := by
      by_contra finished
      exact spared (by simpa using finished) same
    have first : ∀ processes : List Process, process ∈ processes →
        ∃ other ∈ recordIn pid state processes,
          other.pid = process.pid ∧ other.state.isFinished = false := by
      intro processes
      induction processes with
      | nil => nofun
      | cons head rest induction =>
          intro member
          unfold recordIn
          split
          · next found =>
              exact ⟨{ head with state }, by simp,
                found.trans same.symm, goesOn⟩
          · next notFound =>
              have later : process ∈ rest := by
                apply List.mem_of_ne_of_mem _ member
                rintro rfl
                exact notFound same
              obtain ⟨other, recorded, both⟩ := induction later
              exact ⟨other, List.mem_cons_of_mem _ recorded, both⟩
    exact first job.processes listed
  · exact ⟨process, (mem_recordIn_of_ne same).mpr listed, rfl, unfinished⟩

theorem state_ne_done_of_mem_livePids {job : Job} {pid : Pid}
    (live : pid ∈ job.livePids) :
    job.state ≠ .done := by
  intro done
  obtain ⟨process, listed, _, unfinished⟩ := mem_livePids.mp live
  rw [state_eq_done_iff.mp done process listed] at unfinished
  cases unfinished

theorem exists_mem_livePids_of_state_ne_done {job : Job}
    (unfinished : job.state ≠ .done) :
    ∃ pid, pid ∈ job.livePids := by
  by_contra nobody
  apply unfinished
  rw [state_eq_done_iff]
  intro process listed
  by_contra live
  exact nobody ⟨process.pid,
    mem_livePids.mpr ⟨process, listed, rfl, by simpa using live⟩⟩

/-- Where the line of a job says how the job is. -/
def stateField (line : String) : List Char :=
  ((((line.toList.dropWhile (· != ']')).drop 3).dropWhile
    (· != ' ')).drop 1).take 8

theorem dropWhile_digits (number : Nat) {mark : Char}
    (noDigit : mark.isDigit = false) (rest : List Char) :
    ((toString number).toList ++ mark :: rest).dropWhile (· != mark) =
      mark :: rest := by
  rw [List.dropWhile_append_of_pos, List.dropWhile_cons_of_neg]
  · simp
  · intro digit member
    rw [Nat.toString_eq_ofList_toDigits, String.toList_ofList] at member
    have isDigit :=
      Nat.isDigit_of_mem_toDigits (by decide : 0 < 10) (by decide) member
    rw [bne_iff_ne]
    rintro rfl
    rw [isDigit] at noDigit
    cases noDigit

theorem stateField_display (job : Job) :
    stateField job.display = (padded 8 job.state.word).toList := by
  have line : job.display.toList =
      '[' :: ((toString job.serial).toList ++ ']' ::
      (job.mark.toList ++ ' ' :: ((toString job.leader).toList ++ ' ' ::
        ((padded 8 job.state.word).toList ++ ' ' :: job.command.toList)))) := by
    unfold display
    simp
  have mark : ∃ sign, job.mark.toList = [sign] := by
    unfold Job.mark
    split
    · exact ⟨'+', rfl⟩
    · split
      · exact ⟨'-', rfl⟩
      · exact ⟨' ', rfl⟩
  have width : (padded 8 job.state.word).toList.length = 8 := by
    cases job.state <;> rfl
  obtain ⟨sign, signed⟩ := mark
  rw [stateField, line, signed, List.dropWhile_cons_of_pos (by decide),
    dropWhile_digits _ (by decide)]
  change (((_ ++ ' ' :: _ : List Char).dropWhile _).drop 1).take 8 = _
  rw [dropWhile_digits _ (by decide), List.drop_one, List.tail_cons,
    List.take_left' width]

/-- Lines that are the same say the same of their jobs. -/
theorem state_eq_of_display_eq {job other : Job}
    (same : job.display = other.display) :
    job.state = other.state := by
  have fields := congrArg stateField same
  rw [stateField_display, stateField_display] at fields
  revert fields
  cases job.state <;> cases other.state <;> decide

end Job

namespace JobTable

/-- The process is in the job of a serial, and has not finished as far as the
table knows. -/
def Alive (table : JobTable) (serial : Nat) (pid : Pid) : Prop :=
  ∃ job, table.get? serial = some job ∧ pid ∈ job.livePids

/-- Of the processes that live in the table only such as have ended may be
counted as finished, or leave with their job. -/
def Spares (ended : Pid → Prop) (table next : JobTable) : Prop :=
  ∀ (serial : Nat) (pid : Pid), table.Alive serial pid → ¬ended pid →
    next.Alive serial pid

section Spares

variable {ended : Pid → Prop} {table next last : JobTable}

theorem Spares.refl (table : JobTable) : Spares ended table table :=
  fun _ _ alive _ => alive

theorem Spares.trans (first : Spares ended table next)
    (second : Spares ended next last) :
    Spares ended table last :=
  fun serial pid alive going =>
    second serial pid (first serial pid alive going) going

theorem Alive.of_unmarked? {serial : Nat} {pid : Pid}
    (alive : table.Alive serial pid)
    (same : next.unmarked? serial = table.unmarked? serial) :
    next.Alive serial pid := by
  obtain ⟨job, found, live⟩ := alive
  rw [unmarked?, unmarked?, found] at same
  obtain ⟨later, foundLater, plain⟩ := Option.map_eq_some_iff.mp same
  have livePids : later.livePids = job.livePids :=
    (congrArg Job.livePids plain :)
  exact ⟨later, foundLater, livePids ▸ live⟩

theorem spares_record {pid : Pid} {state : ProcessState}
    (excused : state.isFinished = true → ended pid) :
    Spares ended table (table.record pid state) := by
  intro serial other alive going
  obtain ⟨job, found, live⟩ := alive
  rcases get?_record_cases table pid state serial with same | recorded
  · exact ⟨job, same.trans found, live⟩
  · rw [found] at recorded
    refine ⟨_, recorded, Job.mem_livePids_record_of_live live ?_⟩
    rintro finished rfl
    exact going (excused finished)

theorem spares_update {serial : Nat} {change : Job → Job}
    (keeps : ∀ job : Job, (change job).livePids = job.livePids) :
    Spares ended table (table.update serial change) := by
  intro key pid alive _
  obtain ⟨job, found, live⟩ := alive
  rw [Alive, get?_update, found]
  refine ⟨_, rfl, ?_⟩
  dsimp only
  split
  · exact keeps job ▸ live
  · exact live

theorem spares_makeCurrent (serial : Nat) :
    Spares ended table (table.makeCurrent serial) :=
  fun key _ alive _ =>
    alive.of_unmarked? (unmarked?_makeCurrent table serial key)

/-- A job that is done may go. -/
theorem spares_remove {serial : Nat}
    (done : ∀ job, table.get? serial = some job → job.state = .done) :
    Spares ended table (table.remove serial).2 := by
  intro key pid alive _
  have other : key ≠ serial := by
    rintro rfl
    obtain ⟨job, found, live⟩ := alive
    exact Job.state_ne_done_of_mem_livePids live (done job found)
  apply alive.of_unmarked?
  rw [unmarked?_remove, if_neg other]

theorem spares_settleJob (table : JobTable) (serial : Nat) :
    Spares ended table (table.settleJob serial).2 := by
  cases found : table.get? serial with
  | none => exact settleJob_of_none found ▸ .refl table
  | some job =>
      by_cases told : job.state = job.reported
      · exact settleJob_of_reported found told ▸ .refl table
      · have news : job.reported ≠ job.state := fun same => told same.symm
        have report (reported : JobState) :
            Spares ended table
              (table.update serial fun other => { other with reported }) :=
          spares_update fun _ => rfl
        cases state : job.state with
        | done =>
            rw [settleJob_of_done found state (state ▸ news)]
            apply (report .done).trans
            apply spares_remove
            intro later foundLater
            rw [get?_update_self found] at foundLater
            cases foundLater
            exact state
        | stopped =>
            rw [settleJob_of_stopped found state (state ▸ news)]
            apply (report .stopped).trans
            apply spares_update
            exact fun _ => rfl
        | running =>
            rw [settleJob_of_running found state (state ▸ news)]
            exact report .running

theorem spares_settleAll (serials : List Nat) (table : JobTable) :
    Spares ended table (table.settleAll serials).2 := by
  induction serials generalizing table with
  | nil => exact .refl table
  | cons serial serials induction =>
      exact (spares_settleJob table serial).trans (induction _)

/-- An answer that does not count a process as finished which has not ended. -/
def Excused (ended : Pid → Prop) (pid : Pid) : WaitAnswer → Prop
  | .changed other state => state.isFinished = true → ended other
  | .failed errno => errno = .noChild → ended pid
  | .noChange | .other => True

theorem spares_recordAnswer {pid : Pid} {answer : WaitAnswer}
    (excused : Excused ended pid answer) :
    Spares ended table (table.recordAnswer pid answer) := by
  cases answer with
  | changed other state => exact spares_record excused
  | failed errno =>
      simp only [recordAnswer]
      split
      · next gone => exact spares_record fun _ => excused gone
      · exact .refl table
  | noChange => exact .refl table
  | other => exact .refl table

theorem spares_recordAnswers {answers : List (Pid × WaitAnswer)}
    (excused : ∀ entry ∈ answers, Excused ended entry.1 entry.2) :
    Spares ended table (table.recordAnswers answers) := by
  induction answers generalizing table with
  | nil => exact .refl table
  | cons entry rest induction =>
      have first : Spares ended table (table.recordAnswer entry.1 entry.2) :=
        spares_recordAnswer (excused entry List.mem_cons_self)
      exact first.trans (induction fun other member =>
        excused other (List.mem_cons_of_mem _ member))

theorem spares_reap {answers : List (Pid × WaitAnswer)}
    (excused : ∀ entry ∈ answers, Excused ended entry.1 entry.2) :
    Spares ended table (table.reap answers).2 :=
  (spares_recordAnswers excused).trans (spares_settleAll _ _)

end Spares

/-- The process has finished, and the one who asks has heard of it. -/
def HeardOfEnd (actual : Pid → ProcessState) (answer : Pid → WaitAnswer)
    (pid : Pid) : Prop :=
  (actual pid).isFinished = true ∧ (answer pid).isHeard = true

instance (actual : Pid → ProcessState) (answer : Pid → WaitAnswer) (pid : Pid) :
    Decidable (HeardOfEnd actual answer pid) :=
  inferInstanceAs (Decidable (_ ∧ _))

theorem excused_of_tells {pid : Pid} {actual : Pid → ProcessState}
    {answer : Pid → WaitAnswer} (tells : (answer pid).Tells pid (actual pid)) :
    Excused (HeardOfEnd actual answer) pid (answer pid) := by
  generalize same : answer pid = reply at tells
  cases tells with
  | noChange live => trivial
  | changed => exact fun finished => ⟨finished, by rw [same]; rfl⟩
  | other live => trivial
  | gone finished => exact fun _ => ⟨finished, by rw [same]; rfl⟩
  | failed different => exact fun gone => absurd gone different

/-- The answers of a look at the processes that have not finished so far. -/
def looks (table : JobTable) (answer : Pid → WaitAnswer) :
    List (Pid × WaitAnswer) :=
  table.registered.map fun pid => (pid, answer pid)

/-- The list after a look: the jobs to tell of, and behind them what is in the
table. -/
def listed (table : JobTable) (answer : Pid → WaitAnswer) : List Job :=
  (table.reap (table.looks answer)).1 ++
    (table.reap (table.looks answer)).2.jobs

def lines (table : JobTable) (answer : Pid → WaitAnswer) : List String :=
  (table.listed answer).map Job.display

/-- What is answered to a process that has no children. -/
def childless (_ : Pid) : WaitAnswer := .failed .noChild

/-- The jobs of a list made of a table in which the answers have been noted. -/
def settledJobs (table : JobTable) : List Job :=
  (table.settleAll table.serials).1 ++ (table.settleAll table.serials).2.jobs

theorem settledJobs_plain (table : JobTable) :
    table.plain.settledJobs = table.settledJobs.map Job.plain := by
  simp only [settledJobs, serials_plain, settleAll_plain, jobs_plain,
    List.map_append]

theorem map_display_settledJobs_plain (table : JobTable) :
    table.plain.settledJobs.map Job.display =
      table.settledJobs.map Job.display := by
  simp only [settledJobs_plain, List.map_map, Function.comp_def,
    Job.display_plain]

/-- When the end of all has been heard of, it does not matter how each of them
has ended. -/
theorem plain_recordAnswers_of_heard {actual : Pid → ProcessState}
    {answer : Pid → WaitAnswer} {pids : List Pid}
    (tells : ∀ pid ∈ pids, (answer pid).Tells pid (actual pid))
    (heard : ∀ pid ∈ pids, HeardOfEnd actual answer pid) (table : JobTable) :
    (table.recordAnswers (pids.map fun pid => (pid, answer pid))).plain =
      pids.foldl (fun table pid => table.record pid (.exited 0))
        table.plain := by
  induction pids generalizing table with
  | nil => rfl
  | cons pid pids induction =>
      have first : (table.recordAnswer pid (answer pid)).plain =
          table.plain.record pid (.exited 0) := by
        have here := tells pid List.mem_cons_self
        obtain ⟨ended, known⟩ := heard pid List.mem_cons_self
        generalize answer pid = reply at here known
        cases here with
        | changed =>
            exact ProcessState.plain_of_isFinished ended ▸
              record_plain table pid _
        | gone _ => exact record_plain table pid (.exited 0)
        | noChange live => rw [ended] at live; cases live
        | other live => rw [ended] at live; cases live
        | failed different => exact absurd (of_decide_eq_true known) different
      rw [List.foldl_cons, ← first]
      exact induction (fun pid later =>
        tells pid (List.mem_cons_of_mem _ later))
        (fun pid later => heard pid (List.mem_cons_of_mem _ later)) _

theorem lines_eq_of_heard {table : JobTable} {actual : Pid → ProcessState}
    {answer : Pid → WaitAnswer}
    (tells : ∀ pid ∈ table.registered, (answer pid).Tells pid (actual pid))
    (heard : ∀ pid ∈ table.registered, HeardOfEnd actual answer pid) :
    table.lines answer = table.lines childless := by
  have alike : (table.recordAnswers (table.looks answer)).plain =
      (table.recordAnswers (table.looks childless)).plain := by
    have told := plain_recordAnswers_of_heard tells heard table
    have gone : ∀ pid ∈ table.registered,
        (childless pid).Tells pid (actual pid) :=
      fun pid member => .gone (heard pid member).1
    have guessed := plain_recordAnswers_of_heard gone
      (fun pid member => ⟨(heard pid member).1, rfl⟩) table
    exact told.trans guessed.symm
  change (settledJobs _).map Job.display = (settledJobs _).map Job.display
  rw [← map_display_settledJobs_plain, alike, map_display_settledJobs_plain]

theorem owner?_record_cases (table : JobTable) (pid : Pid)
    (state : ProcessState) (other : Pid) :
    (table.record pid state).owner? other = none ∨
      ((table.record pid state).owner? other = table.owner? other ∧
        (state.isFinished = true →
          other ≠ pid ∨ table.owner? other = none)) := by
  have disowned (left : JobTable)
      (same : left.owner? other = table.owner? other) :
      (left.disown pid).owner? other = none ∨
        ((left.disown pid).owner? other = table.owner? other ∧
          (state.isFinished = true →
            other ≠ pid ∨ table.owner? other = none)) := by
    rw [owner?_disown]
    by_cases here : other = pid
    · exact .inl (if_pos here)
    · rw [if_neg here]
      exact .inr ⟨same, fun _ => .inl here⟩
  unfold record
  cases owner : table.owner? pid with
  | none =>
      right
      refine ⟨rfl, fun _ => ?_⟩
      by_cases here : other = pid
      · exact .inr (here ▸ owner)
      · exact .inl here
  | some serial =>
      dsimp only
      split
      · exact disowned table rfl
      · split
        · exact disowned _ rfl
        · next live => exact .inr ⟨rfl, fun finished => absurd finished live⟩

/-- Every process that was looked at has lost its owner. -/
theorem owner?_recordAnswers_childless {pids : List Pid} {table : JobTable}
    {other : Pid} {serial : Nat}
    (owner : (table.recordAnswers
      (pids.map fun pid => (pid, childless pid))).owner? other =
      some serial) :
    table.owner? other = some serial ∧ other ∉ pids := by
  induction pids generalizing table with
  | nil => exact ⟨owner, List.not_mem_nil⟩
  | cons pid pids induction =>
      have behind : ((table.record pid (.exited 0)).recordAnswers
          (pids.map fun pid => (pid, childless pid))).owner? other =
          some serial := owner
      obtain ⟨later, absent⟩ := induction behind
      rcases owner?_record_cases table pid (.exited 0) other with none |
        ⟨same, spared⟩
      · rw [none] at later
        cases later
      · rw [same] at later
        refine ⟨later, ?_⟩
        rcases spared rfl with different | unowned
        · simp [different, absent]
        · rw [unowned] at later
          cases later

theorem not_alive_recordAnswers_childless {table : JobTable}
    (consistent : table.Consistent) (serial : Nat) (pid : Pid) :
    ¬(table.recordAnswers (table.looks childless)).Alive serial pid := by
  intro alive
  have recorded : (table.recordAnswers (table.looks childless)).Consistent :=
    consistent.of_changes (records_recordAnswers table _).changes
  have owner := (recorded.owned pid serial).mpr alive
  obtain ⟨before, absent⟩ := owner?_recordAnswers_childless owner
  obtain ⟨entry, member, same⟩ :=
    List.lookup_isSome_iff.mp (Option.isSome_of_eq_some before)
  exact absent (List.mem_map.mpr ⟨entry, member, (beq_iff_eq.mp same).symm⟩)

section Listed

variable {table : JobTable} {actual : Pid →
  ProcessState} {answer : Pid → WaitAnswer}

theorem excused_looks
    (tells : ∀ pid ∈ table.registered, (answer pid).Tells pid (actual pid)) :
    ∀ entry ∈ table.looks answer,
      Excused (HeardOfEnd actual answer) entry.1 entry.2 := by
  intro entry member
  obtain ⟨pid, known, rfl⟩ := List.mem_map.mp member
  exact excused_of_tells (tells pid known)

variable (sound : table.Sound)

include sound

/-- A job of the list is in the state that the answers give it. -/
theorem exists_get?_of_mem_listed {job : Job}
    (listed : job ∈ table.listed answer) :
    ∃ before,
      (table.recordAnswers (table.looks answer)).get? job.serial = some before ∧
      job.state = before.state := by
  have recorded :=
    sound.records (records_recordAnswers table (table.looks answer))
  have settles := settles_settleAll recorded.consistent.once recorded.unreported
  have next : (table.reap (table.looks answer)).2.Consistent :=
    sound.consistent.of_changes (changes_reap table _)
  rcases List.mem_append.mp listed with notice | left
  · obtain ⟨before, member, _, same⟩ :=
      settles.mem_notices recorded.consistent.once notice
    have serial : job.serial = before.serial := (congrArg Job.serial same :)
    rw [serial]
    exact ⟨before, (mem_jobs_iff recorded.consistent).mp member,
      (congrArg Job.state same :)⟩
  · obtain ⟨before, found, _, same⟩ :=
      settles.before ((mem_jobs_iff next).mp left)
    exact ⟨before, found, (congrArg Job.state same :)⟩

theorem state_eq_done_of_mem_listed_childless {job : Job}
    (listed : job ∈ table.listed childless) : job.state = .done := by
  obtain ⟨before, found, same⟩ := exists_get?_of_mem_listed sound listed
  by_contra unfinished
  rw [same] at unfinished
  obtain ⟨pid, live⟩ := Job.exists_mem_livePids_of_state_ne_done unfinished
  exact not_alive_recordAnswers_childless sound.consistent job.serial pid
    ⟨before, found, live⟩

variable (tells : ∀ pid ∈ table.registered, (answer pid).Tells pid (actual pid))

include tells

/-- What is listed as done has ended, or the table knew of its end. -/
theorem heardOfEnd_of_listed_done {job : Job}
    (listed : job ∈ table.listed answer) (done : job.state = .done) {pid : Pid}
    (alive : table.Alive job.serial pid) :
    HeardOfEnd actual answer pid := by
  by_contra going
  obtain ⟨before, found, live⟩ :=
    spares_recordAnswers (excused_looks tells) job.serial pid alive going
  obtain ⟨other, foundOther, same⟩ := exists_get?_of_mem_listed sound listed
  cases found.symm.trans foundOther
  exact Job.state_ne_done_of_mem_livePids live (same.symm.trans done)

/-- The job of a process that goes on, as far as is heard, is in the list, and
not as done. -/
theorem exists_mem_listed_of_live {pid : Pid} (known : pid ∈ table.registered)
    (going : ¬HeardOfEnd actual answer pid) :
    ∃ job ∈ table.listed answer, job.state ≠ .done := by
  have next : (table.reap (table.looks answer)).2.Consistent :=
    sound.consistent.of_changes (changes_reap table _)
  obtain ⟨entry, member, rfl⟩ := List.mem_map.mp known
  have owner : table.owner? entry.1 = some entry.2 :=
    (lookup_eq_some_iff_mem sound.consistent.registeredOnce).mpr member
  have alive : table.Alive entry.2 entry.1 :=
    (sound.consistent.owned _ _).mp owner
  obtain ⟨job, found, live⟩ :=
    spares_reap (excused_looks tells) _ _ alive going
  have left : job ∈ (table.reap (table.looks answer)).2.jobs :=
    (mem_jobs_iff next).mpr (next.keyed found ▸ found)
  exact ⟨job, List.mem_append_right _ left,
    Job.state_ne_done_of_mem_livePids live⟩

/-- Without children the list has the same lines only when all processes have in
fact finished, and the parent has heard of it. -/
theorem lines_eq_childless_iff :
    table.lines answer = table.lines childless ↔
      ∀ pid ∈ table.registered, HeardOfEnd actual answer pid := by
  constructor
  · intro same pid known
    by_contra going
    obtain ⟨job, listed, unfinished⟩ :=
      exists_mem_listed_of_live sound tells known going
    have line : job.display ∈ table.lines childless :=
      same ▸ List.mem_map_of_mem listed
    obtain ⟨other, listedOther, display⟩ := List.mem_map.mp line
    have done := state_eq_done_of_mem_listed_childless sound listedOther
    exact unfinished ((Job.state_eq_of_display_eq display).symm.trans done)
  · exact lines_eq_of_heard tells

end Listed

end JobTable

end JobShell
