import JobShell.Proofs.Job.Reaping

/-!
# The marks of the job list

A table that is not empty has one current job, and at most one previous job,
which is another one.  The marks are written by the calls that bring a job
forward and by those that take the current job out; nothing that becomes of the
processes moves them, and it does not matter which processes the jobs have.
-/

namespace JobShell

namespace JobTable

/-- One call that changes the table.  A new job may be given any processes, also
such as other jobs have. -/
inductive Move : JobTable → JobTable → Prop where
  | add {table : JobTable} (group : Pid) (pids : List Pid) (command : String)
      (background : Bool) :
        Move table (table.add group pids command background).2
  | step {table next : JobTable} (step : Step table next) : Move table next

/-- The tables that such calls make of the empty one. -/
def Reached (table : JobTable) : Prop := Relation.ReflTransGen Move empty table

/-- The jobs stand under their own serials, in order, and `current` and
`previous` are the serials under which the marks are looked for.  A serial that
no job has may be left over from a job that is gone. -/
structure Marks (table : JobTable) (current previous : Option Nat) : Prop where
  ordered : table.serials.Pairwise (· < ·)
  keyed : ∀ {serial : Nat} {job : Job}, table.get? serial = some job →
    job.serial = serial
  isCurrent : ∀ {serial : Nat} {job : Job}, table.get? serial = some job →
    (job.isCurrent = true ↔ current = some serial)
  isPrevious : ∀ {serial : Nat} {job : Job}, table.get? serial = some job →
    (job.isPrevious = true ↔ previous = some serial)
  apart : ∀ {serial : Nat}, current = some serial → previous ≠ some serial

/-- The job of this serial is in the table, and it is the current one. -/
def HasCurrent (table : JobTable) (serial : Nat) : Prop :=
  ∃ job, table.get? serial = some job ∧ job.isCurrent = true

/-- The marks point to jobs of the table, as far as there are any. -/
def Marked (table : JobTable) : Prop :=
  ∃ current previous, table.Marks current previous ∧
    (table.serials = [] ∨ ∃ serial ∈ table.serials, current = some serial)

theorem marked_empty : empty.Marked :=
  ⟨none, none, ⟨.nil, nofun, nofun, nofun, nofun⟩, .inl rfl⟩

theorem isCurrent_remarked (serial : Nat) (job : Job) :
    (remarked serial job).isCurrent = true ↔ job.serial = serial := by
  unfold remarked
  split
  · next same => simp [same]
  · split <;> simp [*]

theorem isPrevious_remarked (serial : Nat) (job : Job) :
    (remarked serial job).isPrevious = true ↔
      job.serial ≠ serial ∧ job.isCurrent = true := by
  unfold remarked
  split
  · next same => simp [same]
  · split <;> simp [*]

section Marks

variable {table : JobTable} {current previous : Option Nat}

theorem Marks.get?_of_mem_jobs (marks : table.Marks current previous)
    {job : Job} (listed : job ∈ table.jobs) :
    table.get? job.serial = some job := by
  obtain ⟨entry, member, rfl⟩ := List.mem_map.mp listed
  have found : table.get? entry.1 = some entry.2 :=
    (lookup_eq_some_iff_mem (marks.ordered.imp Nat.ne_of_lt)).mpr member
  rwa [marks.keyed found]

theorem Marks.map_serial_jobs (marks : table.Marks current previous) :
    table.jobs.map Job.serial = table.serials := by
  unfold jobs serials
  rw [List.map_map]
  apply List.map_congr_left
  intro entry member
  exact marks.keyed
    ((lookup_eq_some_iff_mem (marks.ordered.imp Nat.ne_of_lt)).mpr member)

/-- A mark that points to one serial is with one job at most. -/
theorem Marks.countP_le_one (marks : table.Marks current previous)
    {mark : Job → Bool} {pointer : Option Nat}
    (points : ∀ job ∈ table.jobs, mark job = true → pointer = some job.serial) :
    table.jobs.countP mark ≤ 1 := by
  cases pointer with
  | none =>
      have nowhere : table.jobs.countP mark = 0 := by
        rw [List.countP_eq_zero]
        intro job listed marked
        cases points job listed marked
      omega
  | some serial =>
      have once : (table.jobs.map Job.serial).Nodup := by
        rw [marks.map_serial_jobs]
        exact marks.ordered.imp Nat.ne_of_lt
      calc table.jobs.countP mark
          ≤ table.jobs.countP fun job => job.serial == serial := by
            apply List.countP_mono_left
            intro job listed marked
            exact beq_iff_eq.mpr
              (Option.some.inj (points job listed marked)).symm
        _ = (table.jobs.map Job.serial).count serial := by
            rw [List.count, List.countP_map]
            rfl
        _ ≤ 1 := List.nodup_iff_count_le_one.mp once serial

end Marks

section Point

variable {table next : JobTable} {current previous : Option Nat}

theorem Marks.hasCurrent {serial : Nat}
    (marks : table.Marks (some serial) previous)
    (known : (table.get? serial).isSome) : table.HasCurrent serial := by
  obtain ⟨job, found⟩ := Option.isSome_iff_exists.mp known
  exact ⟨job, found, (marks.isCurrent found).mpr rfl⟩

theorem Marks.marked {serial : Nat} (marks : table.Marks (some serial) previous)
    (known : (table.get? serial).isSome) : table.Marked :=
  ⟨some serial, previous, marks, .inr ⟨serial, isSome_get?_iff.mp known, rfl⟩⟩

/-- Where every job has been marked anew for a serial, this is the current one,
and the one that was current before is the previous one. -/
theorem Marks.point (marks : table.Marks current previous) (serial : Nat)
    (ordered : next.serials.Pairwise (· < ·))
    (remarks : ∀ {key : Nat} {job : Job}, next.get? key = some job →
      ∃ before : Job, job = remarked serial before ∧ before.serial = key ∧
        (key ≠ serial → table.get? key = some before)) :
    next.Marks (some serial) (current.filter (· != serial)) where
  ordered := ordered
  keyed := by
    intro key job found
    obtain ⟨before, rfl, sameSerial, _⟩ := remarks found
    exact (serial_remarked serial before).trans sameSerial
  isCurrent := by
    intro key job found
    obtain ⟨before, rfl, sameSerial, _⟩ := remarks found
    rw [isCurrent_remarked, sameSerial, Option.some.injEq, eq_comm]
  isPrevious := by
    intro key job found
    obtain ⟨before, rfl, sameSerial, foundBefore⟩ := remarks found
    rw [isPrevious_remarked, sameSerial, Option.filter_eq_some_iff,
      bne_iff_ne, and_comm]
    by_cases same : key = serial
    · simp [same]
    · rw [marks.isCurrent (foundBefore same)]
  apart := by
    intro key same pointed
    obtain ⟨_, different⟩ := Option.filter_eq_some_iff.mp pointed
    exact bne_iff_ne.mp different (Option.some.inj same).symm

theorem Marks.makeCurrent (marks : table.Marks current previous)
    (serial : Nat) :
    (table.makeCurrent serial).Marks (some serial)
      (current.filter (· != serial)) := by
  apply marks.point serial
  · exact serials_makeCurrent table serial ▸ marks.ordered
  · intro key job found
    rw [get?_makeCurrent] at found
    obtain ⟨before, foundBefore, rfl⟩ := Option.map_eq_some_iff.mp found
    exact ⟨before, rfl, marks.keyed foundBefore, fun _ => foundBefore⟩

theorem Marks.add (marks : table.Marks current previous) (group : Pid)
    (pids : List Pid) (command : String) (background : Bool) :
    (table.add group pids command background).2.Marks (some table.nextSerial)
      (current.filter (· != table.nextSerial)) := by
  apply marks.point table.nextSerial
  · rw [JobTable.add, serials_makeCurrent, serials, entries_foldl_own]
    exact pairwise_place marks.ordered
  · intro key job found
    rw [get?_add] at found
    split at found
    · next same =>
        cases found
        exact ⟨_, rfl, same.symm, fun different => absurd same different⟩
    · obtain ⟨before, foundBefore, rfl⟩ := Option.map_eq_some_iff.mp found
      exact ⟨before, rfl, marks.keyed foundBefore, fun _ => foundBefore⟩

theorem isSome_get?_add (table : JobTable) (group : Pid) (pids : List Pid)
    (command : String) (background : Bool) :
    ((table.add group pids command background).2.get?
      table.nextSerial).isSome := by
  rw [get?_add, if_pos rfl]
  rfl

theorem Marked.add (marked : table.Marked) (group : Pid) (pids : List Pid)
    (command : String) (background : Bool) :
    (table.add group pids command background).2.Marked := by
  obtain ⟨_, _, marks, _⟩ := marked
  exact (marks.add group pids command background).marked
    (table.isSome_get?_add group pids command background)

theorem isSome_get?_makeCurrent {serial : Nat}
    (known : (table.get? serial).isSome) :
    ((table.makeCurrent serial).get? serial).isSome := by
  rwa [get?_makeCurrent, Option.isSome_map]

theorem Marked.makeCurrent (marked : table.Marked) {serial : Nat}
    (known : (table.get? serial).isSome) :
    (table.makeCurrent serial).Marked := by
  obtain ⟨_, _, marks, _⟩ := marked
  exact (marks.makeCurrent serial).marked (isSome_get?_makeCurrent known)

end Point

section Remove

variable {table : JobTable} {current previous : Option Nat}
  {serial : Nat} {job : Job}

theorem Marks.strike (marks : table.Marks current previous) (serial : Nat)
    (job : Job) :
    (table.strike serial job).Marks current previous where
  ordered := marks.ordered.sublist (List.filter_sublist.map Prod.fst)
  keyed := by
    intro key other found
    rw [get?_strike] at found
    split at found
    · cases found
    · exact marks.keyed found
  isCurrent := by
    intro key other found
    rw [get?_strike] at found
    split at found
    · cases found
    · exact marks.isCurrent found
  isPrevious := by
    intro key other found
    rw [get?_strike] at found
    split at found
    · cases found
    · exact marks.isPrevious found
  apart := marks.apart

theorem mem_serials_strike {key : Nat} :
    key ∈ (table.strike serial job).serials ↔
      key ≠ serial ∧ key ∈ table.serials := by
  rw [← isSome_get?_iff, get?_strike, ← isSome_get?_iff]
  split
  · next same => simp [same]
  · next different => simp [different]

/-- Somebody succeeds the current job, unless nobody is left. -/
theorem eq_nil_of_successor? {jobs : List Job}
    (nobody : successor? jobs = none) : jobs = [] := by
  unfold successor? at nobody
  exact List.getLast?_eq_none_iff.mp (Option.or_eq_none_iff.mp nobody).2

theorem Marked.remove (marked : table.Marked)
    (serial : Nat) : (table.remove serial).2.Marked := by
  obtain ⟨current, previous, marks, points⟩ := marked
  cases found : table.get? serial with
  | none =>
      have kept : (table.remove serial).2 = table := by
        simp [JobTable.remove, found]
      rw [kept]
      exact ⟨current, previous, marks, points⟩
  | some job =>
      have left := marks.strike serial job
      simp only [JobTable.remove, found]
      split
      · next nobody =>
          refine ⟨current, previous, left, ?_⟩
          split at nobody
          · have noJobs := eq_nil_of_successor? nobody
            rw [jobs, List.map_eq_nil_iff] at noJobs
            exact .inl (by rw [serials, noJobs]; rfl)
          · next notCurrent =>
              -- the mark is with another job, which stays
              right
              have member :=
                isSome_get?_iff.mp (by
                  rw [found]; rfl : (table.get? serial).isSome)
              rcases points with noSerials | ⟨key, known, pointed⟩
              · rw [noSerials] at member
                cases member
              · have different : key ≠ serial := by
                  rintro rfl
                  exact notCurrent ((marks.isCurrent found).mpr pointed)
                exact ⟨key, mem_serials_strike.mpr ⟨different, known⟩, pointed⟩
      · next next promoted =>
          have listed : next ∈ (table.strike serial job).jobs := by
            split at promoted
            · exact mem_of_successor? promoted
            · cases promoted
          have known : ((table.strike serial job).get? next.serial).isSome := by
            rw [left.get?_of_mem_jobs listed]
            rfl
          exact (left.makeCurrent next.serial).marked
            (isSome_get?_makeCurrent known)

end Remove

/-- The tables have jobs under the same serials, with the same marks. -/
structure SameMarks (table next : JobTable) : Prop where
  serials : next.serials = table.serials
  kept : ∀ {serial : Nat} {job : Job}, next.get? serial = some job →
    ∃ before, table.get? serial = some before ∧ job.serial = before.serial ∧
      job.isCurrent = before.isCurrent ∧ job.isPrevious = before.isPrevious

section SameMarks

variable {table next : JobTable} {current previous : Option Nat}

theorem sameMarks_record (table : JobTable) (pid : Pid) (state : ProcessState) :
    SameMarks table (table.record pid state) where
  serials := serials_record table pid state
  kept := by
    intro serial job found
    rcases get?_record_cases table pid state serial with same | recorded
    · exact ⟨job, same ▸ found, rfl, rfl, rfl⟩
    · rw [recorded] at found
      obtain ⟨before, foundBefore, rfl⟩ := Option.map_eq_some_iff.mp found
      exact ⟨before, foundBefore, rfl, rfl, rfl⟩

theorem sameMarks_update (table : JobTable) (serial : Nat) {change : Job → Job}
    (adjusts : ∀ job : Job, job.Adjusts (change job)) :
    SameMarks table (table.update serial change) where
  serials := serials_update table serial change
  kept := by
    intro key job found
    rw [get?_update] at found
    obtain ⟨before, foundBefore, rfl⟩ := Option.map_eq_some_iff.mp found
    refine ⟨before, foundBefore, ?_⟩
    split
    · exact ⟨(adjusts before).serial, (adjusts before).isCurrent,
        (adjusts before).isPrevious⟩
    · exact ⟨rfl, rfl, rfl⟩

theorem Marks.same (marks : table.Marks current previous)
    (same : SameMarks table next) :
    next.Marks current previous where
  ordered := same.serials ▸ marks.ordered
  keyed := by
    intro serial job found
    obtain ⟨before, foundBefore, sameSerial, _, _⟩ := same.kept found
    exact sameSerial.trans (marks.keyed foundBefore)
  isCurrent := by
    intro serial job found
    obtain ⟨before, foundBefore, _, sameMark, _⟩ := same.kept found
    rw [sameMark]
    exact marks.isCurrent foundBefore
  isPrevious := by
    intro serial job found
    obtain ⟨before, foundBefore, _, _, sameMark⟩ := same.kept found
    rw [sameMark]
    exact marks.isPrevious foundBefore
  apart := marks.apart

theorem Marked.same (marked : table.Marked)
    (same : SameMarks table next) : next.Marked := by
  obtain ⟨current, previous, marks, points⟩ := marked
  refine ⟨current, previous, marks.same same, ?_⟩
  rw [same.serials]
  exact points

theorem Marks.records (marks : table.Marks current previous)
    (records : Records table next) :
    next.Marks current previous := by
  have kept : ∀ (noted : JobTable) (pid : Pid) (state : ProcessState),
      noted.Marks current previous →
      (noted.record pid state).Marks current previous :=
    fun noted pid state marks => marks.same (sameMarks_record noted pid state)
  exact records.invariant kept marks

end SameMarks

section Calls

variable {table next : JobTable}

theorem Change.marked (change : Change table next)
    (marked : table.Marked) : next.Marked := by
  cases change with
  | add group pids command background distinct free =>
      exact marked.add group pids command background
  | remove serial => exact marked.remove serial
  | record pid state => exact marked.same (sameMarks_record table pid state)
  | adjust serial adjusts =>
      exact marked.same (sameMarks_update table serial adjusts)
  | makeCurrent known => exact marked.makeCurrent known

theorem Move.marked (move : Move table next)
    (marked : table.Marked) : next.Marked := by
  cases move with
  | add group pids command background =>
      exact marked.add group pids command background
  | step step => exact step.changes.invariant Change.marked marked

theorem Reached.marked (reached : Reached table) : table.Marked := by
  induction reached with
  | refl => exact marked_empty
  | tail _ move induction => exact move.marked induction

/-- A job that is left stopped by a wait is the current one. -/
theorem Waited.hasCurrent_of_stopped {serial shown : Nat} {resume : Bool}
    {status : Int} (marked : table.Marked)
    (waited : Waited serial resume table (.ok (.stopped shown status)) next) :
    shown = serial ∧ next.HasCurrent serial := by
  obtain ⟨_, _, marks, _⟩ := marked
  cases waited with
  | stopped known records found live =>
      have forward := (marks.same (sameMarks_update table serial
        (adjusts_toForeground resume))).makeCurrent serial
      have noted := forward.records records
      obtain ⟨job, foundAgain, isCurrent⟩ :=
        noted.hasCurrent (by rw [found]; rfl)
      exact ⟨rfl, _, get?_update_self foundAgain _, isCurrent⟩

end Calls

end JobTable

namespace Shell

/-- A job that is told to go on in the background does so where this
succeeds. -/
theorem resumed_of_resumeBackground_ok {before after : Session} {serial : Nat}
    {job : Job}
    (ends : (resumeBackground serial).MayEnd before (.ok job) after) :
    (before.jobs.get? serial).isSome ∧ after.jobs = before.jobs.resumed serial ∧
      after.jobs.get? serial = some job := by
  unfold resumeBackground at ends
  rcases mayEnd_job_bind.mp ends with ⟨stopped, found, ends⟩ |
    ⟨_, impossible, _⟩
  · rcases mayEnd_bind.mp ends with ⟨_, between, sent, ends⟩ |
      ⟨_, _, impossible⟩
    · rw [session_of_signalGroup sent, mayEnd_modifyJobs_bind] at ends
      obtain ⟨answer, rfl⟩ := mayEnd_job.mp ends
      refine ⟨by rw [found]; rfl, rfl, ?_⟩
      change Except.ok job =
        ((before.jobs.resumed serial).get? serial).elim _ _ at answer
      change (before.jobs.resumed serial).get? serial = some job
      cases foundAgain : (before.jobs.resumed serial).get? serial with
      | none =>
          rw [foundAgain] at answer
          cases answer
      | some resumed =>
          rw [foundAgain] at answer
          cases answer
          rfl
    · cases impossible
  · cases impossible

end Shell

namespace JobTable

theorem hasCurrent_resumed {table : JobTable} (marked : table.Marked)
    {serial : Nat} (known : (table.get? serial).isSome) :
    (table.resumed serial).HasCurrent serial := by
  obtain ⟨_, _, marks, _⟩ := marked
  have adjusted := marks.same (sameMarks_update table serial fun job =>
    job.adjusts_continued.inBackground true)
  have known : ((table.update serial fun job =>
      { job.continued with background := true }).get? serial).isSome := by
    rwa [get?_update, Option.isSome_map]
  exact (adjusted.makeCurrent serial).hasCurrent (isSome_get?_makeCurrent known)

/-- Whatever the calls and the processes were, a table that is not empty has one
current job, at most one previous job beside it, and a job that comes forward is
the current one. -/
theorem marks_of_reached {table : JobTable} (reached : Reached table) :
    (table.jobs ≠ [] → table.jobs.countP Job.isCurrent = 1) ∧
    table.jobs.countP Job.isPrevious ≤ 1 ∧
    (∀ job ∈ table.jobs, job.isPrevious = true → job.isCurrent = false) ∧
    (∀ (group : Pid) (pids : List Pid) (command : String) (background : Bool),
      (table.add group pids command background).2.HasCurrent
        (table.add group pids command background).1) ∧
    (∀ {before after : Session} {serial : Nat} {job : Job},
      before.jobs = table →
      (Shell.resumeBackground serial).MayEnd before (.ok job) after →
        after.jobs.get? serial = some job ∧ job.isCurrent = true) ∧
    (∀ {before after : Session} {serial shown : Nat} {resume : Bool}
      {status : Int},
      before.jobs = table →
      (Shell.waitFor serial resume).MayEnd before
        (.ok (.stopped shown status)) after →
        shown = serial ∧ after.jobs.HasCurrent serial) := by
  have marked := reached.marked
  obtain ⟨current, previous, marks, points⟩ := marked
  have isCurrent : ∀ job ∈ table.jobs, job.isCurrent = true ↔
      current = some job.serial :=
    fun job listed => marks.isCurrent (marks.get?_of_mem_jobs listed)
  have isPrevious : ∀ job ∈ table.jobs, job.isPrevious = true ↔
      previous = some job.serial :=
    fun job listed => marks.isPrevious (marks.get?_of_mem_jobs listed)
  refine ⟨fun jobs => ?_, ?_,
    fun job listed marked => ?_,
      fun group pids command background => ?_, ?_, ?_⟩
  · have atMost := marks.countP_le_one fun job listed =>
      (isCurrent job listed).mp
    have somebody : 0 < table.jobs.countP Job.isCurrent := by
      rcases points with noSerials | ⟨serial, known, pointed⟩
      · rw [← marks.map_serial_jobs, List.map_eq_nil_iff] at noSerials
        exact absurd noSerials jobs
      · rw [← marks.map_serial_jobs] at known
        obtain ⟨job, listed, rfl⟩ := List.mem_map.mp known
        exact List.countP_pos_iff.mpr ⟨job, listed,
          (isCurrent job listed).mpr pointed⟩
    omega
  · exact marks.countP_le_one fun job listed => (isPrevious job listed).mp
  · rw [Bool.eq_false_iff, Ne, isCurrent job listed]
    exact fun pointed => marks.apart pointed ((isPrevious job listed).mp marked)
  · exact (marks.add group pids command background).hasCurrent
      (table.isSome_get?_add group pids command background)
  · rintro before after serial job rfl ends
    obtain ⟨known, goesOn, found⟩ := Shell.resumed_of_resumeBackground_ok ends
    obtain ⟨shown, foundAgain, isCurrent⟩ :=
      hasCurrent_resumed reached.marked known
    rw [goesOn] at found ⊢
    cases found.symm.trans foundAgain
    exact ⟨found, isCurrent⟩
  · rintro before after serial shown resume status rfl ends
    exact (Shell.waited_of_mayEnd ends).hasCurrent_of_stopped reached.marked

/-- Three jobs with one and the same process, of which the last, and then the
first, has gone. -/
def secondLeft : JobTable :=
  (((((empty.add 100 [100] "a" true).2.add 200 [100, 100] "b" true).2.add 300
    [100] "c" false).2.remove 3).2.remove 1).2

/-- The mark goes to the job that was current before the last one came, and a
job that is told to go on keeps it. -/
theorem marks_of_reached_secondLeft :
    Reached secondLeft ∧
    secondLeft.jobs.map (fun job => (job.serial, job.mark)) = [(2, "+")] ∧
    secondLeft.jobs.countP Job.isCurrent = 1 ∧
    (secondLeft.add 400 [100] "d" true).2.HasCurrent 1 ∧
    ∃ (before after : Session) (job : Job), before.jobs = secondLeft ∧
      (Shell.resumeBackground 2).MayEnd before (.ok job) after ∧
      job.isCurrent = true := by
  have reached : Reached secondLeft :=
    ((((Relation.ReflTransGen.single (.add 100 [100] "a" true)).tail
      (.add 200 [100, 100] "b" true)).tail (.add 300 [100] "c" false)).tail
        (.step (.remove 3))).tail (.step (.remove 1))
  obtain ⟨one, _, _, added, resumed, _⟩ := marks_of_reached reached
  let before : Session :=
    { Session.fresh 50 "/" ⟨[], 0, none⟩ with jobs := secondLeft }
  let after : Session := { before with jobs := secondLeft.resumed 2 }
  obtain ⟨stopped, found⟩ : ∃ job, secondLeft.get? 2 = some job := ⟨_, rfl⟩
  obtain ⟨job, foundAgain⟩ : ∃ job,
    (secondLeft.resumed 2).get? 2 = some job := ⟨_, rfl⟩
  have ends : (Shell.resumeBackground 2).MayEnd before (.ok job) after := by
    apply Shell.mayEnd_job_bind.mpr
    refine .inl ⟨stopped, found,
      Shell.mayEnd_bind.mpr (.inl ⟨(), before, ?_, ?_⟩)⟩
    · exact Shell.mayEnd_lift_bind.mpr ⟨.ok (), ⟨.ok (), rfl⟩,
        Shell.mayEnd_pure.mpr ⟨rfl, rfl⟩⟩
    · rw [Shell.mayEnd_modifyJobs_bind]
      refine Shell.mayEnd_job.mpr ⟨?_, rfl⟩
      change _ = ((secondLeft.resumed 2).get? 2).elim _ _
      rw [foundAgain]
      rfl
  exact ⟨reached, by decide, one (by decide), added 400 [100] "d" true, before,
    after, job, rfl, ends, (resumed rfl ends).2⟩

end JobTable

end JobShell
