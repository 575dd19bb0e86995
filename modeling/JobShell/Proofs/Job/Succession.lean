import JobShell.Proofs.Job.Marks

/-!
# Which job is current behind a job of the foreground

A job that is launched in the foreground comes forward twice, when it enters the
table and when it is waited for.  The second time it is the current one already,
and the job that was current before it loses the mark of the previous one.  So
when it leaves, there is nobody to take the mark back, and it goes to the job
with the greatest serial.
-/

namespace JobShell

namespace JobTable

/-- No job is marked as the previous one. -/
def NoPrevious (table : JobTable) : Prop :=
  ∀ job ∈ table.jobs, job.isPrevious = false

/-- The mark of the current job is with the greatest serial, and it is the only
mark. -/
structure LastIsCurrent (table : JobTable) : Prop where
  current : ∀ job ∈ table.jobs,
    (job.isCurrent = true ↔ ∀ serial ∈ table.serials, serial ≤ job.serial)
  noPrevious : table.NoPrevious

/-- The two marks of the job under a serial. -/
def marks? (table : JobTable) (serial : Nat) : Option (Bool × Bool) :=
  (table.get? serial).map fun job => (job.isCurrent, job.isPrevious)

/-- The marks of all jobs but one are the same in both tables. -/
def SameMarksBeside (serial : Nat) (table next : JobTable) : Prop :=
  ∀ key, key ≠ serial → next.marks? key = table.marks? key

section Again

variable {table next : JobTable} {serial : Nat} {previous : Option Nat}

theorem Marks.mem_jobs {current : Option Nat}
    (marks : table.Marks current previous) {job : Job}
    (found : table.get? serial = some job) : job ∈ table.jobs := by
  have member :=
    (lookup_eq_some_iff_mem (marks.ordered.imp Nat.ne_of_lt)).mp found
  exact List.mem_map.mpr ⟨(serial, job), member, rfl⟩

/-- The marks are where they point to. -/
theorem Marks.marks?_eq {current : Option Nat}
    (marks : table.Marks current previous) (key : Nat) :
    table.marks? key =
      if key ∈ table.serials then
        some (current == some key, previous == some key) else none := by
  unfold marks?
  cases found : table.get? key with
  | none => simp [get?_eq_none_iff.mp found]
  | some job =>
      have known : key ∈ table.serials :=
        isSome_get?_iff.mp (by rw [found]; rfl)
      have isCurrent : job.isCurrent = (current == some key) := by
        rw [Bool.eq_iff_iff, marks.isCurrent found, beq_iff_eq]
      have isPrevious : job.isPrevious = (previous == some key) := by
        rw [Bool.eq_iff_iff, marks.isPrevious found, beq_iff_eq]
      simp [known, isCurrent, isPrevious]

theorem Marks.noPrevious_iff {current : Option Nat}
    (marks : table.Marks current previous) :
    table.NoPrevious ↔ ∀ key ∈ table.serials, previous ≠ some key := by
  constructor
  · intro nobody key known pointed
    obtain ⟨job, found⟩ :=
      Option.isSome_iff_exists.mp (isSome_get?_iff.mpr known)
    have unmarked := nobody job (marks.mem_jobs found)
    rw [(marks.isPrevious found).mpr pointed] at unmarked
    cases unmarked
  · intro nowhere job listed
    have found := marks.get?_of_mem_jobs listed
    rw [Bool.eq_false_iff, Ne, marks.isPrevious found]
    exact nowhere job.serial (isSome_get?_iff.mp (by rw [found]; rfl))

/-- The one who was current before is looked for among the others, and not
found. -/
theorem Marks.makeCurrent_again (marks : table.Marks (some serial) previous) :
    (table.makeCurrent serial).Marks (some serial) none := by
  have nobody : (some serial).filter (· != serial) = none := by simp
  have pointed := marks.makeCurrent serial
  rwa [nobody] at pointed

theorem Marks.broughtForward_again (marks : table.Marks (some serial) previous)
    (resume : Bool) :
    (table.broughtForward serial resume).Marks (some serial) none :=
  (marks.same (sameMarks_update table serial
    (adjusts_toForeground resume))).makeCurrent_again

theorem Marks.resumed_again (marks : table.Marks (some serial) previous) :
    (table.resumed serial).Marks (some serial) none := by
  have adjusted := marks.same (sameMarks_update table serial fun job =>
    job.adjusts_continued.inBackground true)
  exact adjusted.makeCurrent_again

@[simp] theorem serials_broughtForward (table : JobTable) (serial : Nat)
    (resume : Bool) :
    (table.broughtForward serial resume).serials = table.serials := by
  simp [broughtForward]

@[simp] theorem serials_resumed (table : JobTable) (serial : Nat) :
    (table.resumed serial).serials = table.serials := by
  simp [resumed]

/-- Where only the current job is marked, the others have kept their marks just
when there was no previous job. -/
theorem Marks.sameMarksBeside_iff (marks : table.Marks (some serial) previous)
    (after : next.Marks (some serial) none)
    (serials : next.serials = table.serials) :
    SameMarksBeside serial table next ↔ table.NoPrevious := by
  have compare : ∀ key ∈ table.serials, key ≠ serial →
      (next.marks? key = table.marks? key ↔ previous ≠ some key) := by
    intro key known different
    have unmarked : ((none : Option Nat) == some key) = false := rfl
    rw [after.marks?_eq, marks.marks?_eq, serials, if_pos known, if_pos known,
      Option.some.injEq, Prod.mk.injEq, and_iff_right rfl, unmarked, eq_comm,
      beq_eq_false_iff_ne]
  rw [marks.noPrevious_iff]
  constructor
  · intro same key known
    by_cases itself : key = serial
    · exact marks.apart (congrArg some itself.symm)
    · exact (compare key known itself).mp (same key itself)
  · intro nowhere key different
    by_cases known : key ∈ table.serials
    · exact (compare key known different).mpr (nowhere key known)
    · rw [after.marks?_eq, marks.marks?_eq, serials, if_neg known, if_neg known]

end Again

section Leave

variable {table next : JobTable} {serial : Nat} {current previous : Option Nat}

theorem le_of_getLast?_jobs (marks : table.Marks current previous) {last : Job}
    (latest : table.jobs.getLast? = some last) :
    ∀ key ∈ table.serials, key ≤ last.serial := by
  obtain ⟨front, shape⟩ := List.getLast?_eq_some_iff.mp latest
  have serials : table.serials = front.map Job.serial ++ [last.serial] := by
    rw [← marks.map_serial_jobs, shape, List.map_append]
    rfl
  have ordered := marks.ordered
  rw [serials, List.pairwise_append] at ordered
  intro key known
  rw [serials] at known
  rcases List.mem_append.mp known with earlier | itself
  · exact Nat.le_of_lt
      (ordered.2.2 key earlier last.serial (List.mem_singleton_self _))
  · exact Nat.le_of_eq (List.mem_singleton.mp itself)

theorem serials_strike (table : JobTable) (serial : Nat) (job : Job) :
    (table.strike serial job).serials = table.serials.filter fun key =>
      key != serial := by
  unfold strike serials
  rw [List.filter_map]
  rfl

/-- Without a previous job the last one succeeds. -/
theorem Marks.successor?_eq (marks : table.Marks current none) :
    successor? table.jobs = table.jobs.getLast? := by
  have nobody : table.jobs.find? (fun job => job.isPrevious) = none := by
    rw [List.find?_eq_none]
    intro job listed
    have unmarked := marks.noPrevious_iff.mpr nofun job listed
    simp [unmarked]
  rw [successor?, nobody, Option.none_or]

theorem Marks.lastIsCurrent (marks : table.Marks (some serial) previous)
    (known : serial ∈ table.serials)
    (greatest : ∀ key ∈ table.serials, key ≤ serial)
    (nowhere : ∀ key ∈ table.serials, previous ≠ some key) :
    table.LastIsCurrent where
  current := by
    intro job listed
    have jobKnown : job.serial ∈ table.serials := by
      rw [← marks.map_serial_jobs]
      exact List.mem_map_of_mem listed
    rw [marks.isCurrent (marks.get?_of_mem_jobs listed), Option.some.injEq]
    constructor
    · intro same
      exact same ▸ greatest
    · intro greatestToo
      exact Nat.le_antisymm (greatestToo serial known)
        (greatest job.serial jobKnown)
  noPrevious := marks.noPrevious_iff.mpr nowhere

/-- When the only marked job leaves, the mark goes to the greatest serial. -/
theorem Marks.remove_current (marks : table.Marks (some serial) none)
    (known : (table.get? serial).isSome) :
    (table.remove serial).2.serials =
      table.serials.filter (fun key => key != serial) ∧
      (table.remove serial).2.LastIsCurrent := by
  obtain ⟨job, found⟩ := Option.isSome_iff_exists.mp known
  have isCurrent : job.isCurrent = true := (marks.isCurrent found).mpr rfl
  have left := marks.strike serial job
  simp only [JobTable.remove, found, isCurrent, if_true, left.successor?_eq]
  cases latest : (table.strike serial job).jobs.getLast? with
  | none =>
      have nobody := List.getLast?_eq_none_iff.mp latest
      refine ⟨serials_strike table serial job, ?_, ?_⟩
      · intro other listed
        simp [nobody] at listed
      · intro other listed
        simp [nobody] at listed
  | some last =>
      have member : last.serial ∈ (table.strike serial job).serials := by
        rw [← left.map_serial_jobs]
        exact List.mem_map_of_mem (List.mem_of_getLast? latest)
      have kept := serials_makeCurrent (table.strike serial job) last.serial
      have pointed := left.makeCurrent last.serial
      refine ⟨kept.trans (serials_strike table serial job),
        pointed.lastIsCurrent ?_ ?_ ?_⟩
      · rwa [kept]
      · rw [kept]
        exact le_of_getLast?_jobs left latest
      · -- the previous job would be the one that has left
        intro key stays pointedTo
        rw [kept] at stays
        obtain ⟨same, _⟩ := Option.filter_eq_some_iff.mp pointedTo
        exact (mem_serials_strike.mp stays).1 (Option.some.inj same).symm

/-- How the marks stand when a wait for the current job has ended. -/
theorem Waited.marks_again {resume : Bool}
    {outcome : Except Failure WaitOutcome}
    (waited : Waited serial resume table outcome next)
    (known : (table.get? serial).isSome)
    (marks : table.Marks (some serial) previous) :
    ((∃ status, outcome = .ok (.exited status)) ∧
      next.serials = table.serials.filter (fun key => key != serial) ∧
      next.LastIsCurrent) ∨
    ((¬∃ status, outcome = .ok (.exited status)) ∧
      next.serials = table.serials ∧ next.Marks (some serial) none) := by
  have forward := marks.broughtForward_again resume
  have serials := serials_broughtForward table serial resume
  cases waited with
  | unknown absent =>
      rw [absent] at known
      cases known
  | failed failure _ records =>
      exact .inr ⟨nofun, (serials_of_records records).trans serials,
        forward.records records⟩
  | @finished noted job _ records found done =>
      have gone := (forward.records records).remove_current (by rw [found]; rfl)
      rw [serials_of_records records, serials] at gone
      exact .inl ⟨⟨job.exitStatus, rfl⟩, gone⟩
  | stopped _ records found live =>
      refine .inr ⟨nofun, ?_, ?_⟩
      · simp [leftStopped, serials_of_records records, serials]
      · exact (forward.records records).same
          (sameMarks_update _ serial fun _ => ⟨rfl, rfl, rfl, rfl, rfl⟩)

end Leave

section Foreground

variable {table : JobTable} {current : Nat}

theorem filter_map_fst_place {serial : Nat} (job : Job)
    {entries : List (Nat × Job)} (absent : serial ∉ entries.map Prod.fst) :
    ((place serial job entries).map Prod.fst).filter
      (fun key => key != serial) =
      entries.map Prod.fst := by
  induction entries with
  | nil => simp [place]
  | cons entry entries induction =>
      obtain ⟨other, held⟩ := entry
      rw [List.map_cons, List.mem_cons, not_or] at absent
      have different : (other != serial) = true :=
        bne_iff_ne.mpr (Ne.symm absent.1)
      unfold place
      split
      · have kept : (entries.map Prod.fst).filter (fun key => key != serial) =
            entries.map Prod.fst := by
          rw [List.filter_eq_self]
          intro key member
          exact bne_iff_ne.mpr fun same => absent.2 (same ▸ member)
        simp [different, kept]
      · rw [if_neg absent.1, List.map_cons, List.filter_cons, if_pos different,
          induction absent.2]
        rfl

theorem filter_serials_add (table : JobTable) (group : Pid) (pids : List Pid)
    (command : String) (background : Bool) :
    (table.add group pids command background).2.serials.filter
        (fun key => key != table.nextSerial) = table.serials := by
  have free := get?_eq_none_iff.mp table.get?_nextSerial
  rw [add, serials_makeCurrent, serials, entries_foldl_own]
  exact filter_map_fst_place _ free

theorem Reached.exists_marks (reached : Reached table)
    (isCurrent : table.HasCurrent current) :
    ∃ previous, table.Marks (some current) previous := by
  obtain ⟨pointer, previous, marks, _⟩ := reached.marked
  obtain ⟨job, found, marked⟩ := isCurrent
  cases (marks.isCurrent found).mp marked
  exact ⟨previous, marks⟩

theorem LastIsCurrent.hasCurrent_iff (last : table.LastIsCurrent)
    (reached : Reached table) (known : current ∈ table.serials) :
    table.HasCurrent current ↔ ∀ serial ∈ table.serials, serial ≤ current := by
  obtain ⟨pointer, previous, marks, _⟩ := reached.marked
  obtain ⟨job, found⟩ := Option.isSome_iff_exists.mp (isSome_get?_iff.mpr known)
  have mark := last.current job (marks.mem_jobs found)
  rw [marks.keyed found] at mark
  constructor
  · rintro ⟨other, foundOther, isCurrent⟩
    cases found.symm.trans foundOther
    exact mark.mp isCurrent
  · intro greatest
    exact ⟨job, found, mark.mpr greatest⟩

/-- When a job of the foreground has come to its end, the greatest serial is
current.  So the job that was current before is so again just when it has the
greatest serial.  When the current job is told to go on, or waited for, the
previous job loses its mark; the others keep theirs just when there was none. -/
theorem marks_behind_foreground (reached : Reached table)
    (isCurrent : table.HasCurrent current) :
    (∀ {before after : Session} {group : Pid} {pids : List Pid}
      {command : String} {resume : Bool}
        {status : Int}, before.jobs = (table.add group pids command false).2 →
      (Shell.waitFor (table.add group pids command false).1 resume).MayEnd
        before (.ok (.exited status)) after →
        after.jobs.serials = table.serials ∧ after.jobs.LastIsCurrent ∧
          (after.jobs.HasCurrent current ↔
            ∀ serial ∈ table.serials, serial ≤ current)) ∧
    (∀ {before after : Session} {outcome : Except Failure Job},
      before.jobs = table →
      (Shell.resumeBackground current).MayEnd before outcome after →
        after.jobs = table ∨
          (after.jobs.HasCurrent current ∧ after.jobs.NoPrevious ∧
            (SameMarksBeside current table after.jobs ↔ table.NoPrevious))) ∧
    (∀ {before after : Session} {resume : Bool}
      {outcome : Except Failure WaitOutcome},
      before.jobs = table →
      (Shell.waitFor current resume).MayEnd before outcome after →
        ((∃ status, outcome = .ok (.exited status)) ∧
          after.jobs.serials =
            table.serials.filter (fun key => key != current) ∧
          after.jobs.LastIsCurrent) ∨
        ((¬∃ status, outcome = .ok (.exited status)) ∧
          after.jobs.HasCurrent current ∧ after.jobs.NoPrevious ∧
          (SameMarksBeside current table after.jobs ↔ table.NoPrevious))) := by
  obtain ⟨previous, marks⟩ := reached.exists_marks isCurrent
  have known : (table.get? current).isSome := by
    obtain ⟨job, found, _⟩ := isCurrent
    rw [found]
    rfl
  -- the current job stays the only one with a mark
  have again : ∀ {next : JobTable}, next.serials = table.serials →
      next.Marks (some current) none →
      next.HasCurrent current ∧ next.NoPrevious ∧
        (SameMarksBeside current table next ↔ table.NoPrevious) := by
    intro next serials after
    have stays : (next.get? current).isSome := by
      rwa [isSome_get?_iff, serials, ← isSome_get?_iff]
    exact ⟨after.hasCurrent stays, after.noPrevious_iff.mpr nofun,
      marks.sameMarksBeside_iff after serials⟩
  refine ⟨?_, ?_, ?_⟩
  · intro before after group pids command resume status added ends
    have launched := marks.add group pids command false
    have waited := Shell.waited_of_mayEnd ends
    rw [added] at waited
    rcases waited.marks_again (table.isSome_get?_add group pids command false)
      launched with
      ⟨_, serials, last⟩ | ⟨impossible, _⟩
    · have serials :=
        serials.trans (table.filter_serials_add group pids command false)
      have stays : current ∈ after.jobs.serials := by
        rwa [serials, ← isSome_get?_iff]
      have reachedAdded : Reached before.jobs :=
        added ▸ reached.tail (.add group pids command false)
      have reachedAfter : Reached after.jobs :=
        reachedAdded.tail (.step (.waitFor ends))
      refine ⟨serials, last, ?_⟩
      rw [last.hasCurrent_iff reachedAfter stays, serials]
    · exact absurd ⟨status, rfl⟩ impossible
  · rintro before after outcome rfl ends
    rcases Shell.jobs_of_resumeBackground ends with same | ⟨_, goesOn⟩
    · exact .inl same
    · rw [goesOn]
      exact .inr
        (again (serials_resumed before.jobs current) marks.resumed_again)
  · rintro before after resume outcome rfl ends
    rcases (Shell.waited_of_mayEnd ends).marks_again known marks with
      ended | ⟨notEnded, serials, after⟩
    · exact .inl ended
    · exact .inr ⟨notEnded, again serials after⟩

/-- The first of three jobs has left, and a new one has got its serial. -/
def firstReused : JobTable :=
  (((((empty.add 100 [100] "a" true).2.add 200 [200] "b" true).2.add 300
    [300] "c" true).2.remove 1).2.add 400 [400] "d" true).2

theorem reachable_firstReused : Reachable firstReused :=
  ((((Relation.ReflTransGen.single
    (.add 100 [100] "a" true (by decide) (by decide))).tail
    (.add 200 [200] "b" true (by decide) (by decide))).tail
      (.add 300 [300] "c" true (by decide) (by decide))).tail (.remove 1)).tail
        (.add 400 [400] "d" true (by decide) (by decide))

/-- A fourth job has come in the foreground. -/
def fourthLaunched : JobTable := (firstReused.add 500 [500] "e" false).2

/-- The fourth job has come to its end. -/
def fourthEnded : JobTable :=
  (((fourthLaunched.broughtForward 4 false).record 500 (.exited 0)).remove 4).2

theorem mayEnd_waitFor_fourth :
    (Shell.waitFor 4 false).MayEnd
      { Session.fresh 50 "/" .empty with jobs := fourthLaunched }
      (.ok (.exited 0)) { Session.fresh 50 "/" .empty with
        jobs := fourthEnded } :=
  ⟨(), .changed 500 (.exited 0), (), rfl⟩

theorem not_hasCurrent_fourthEnded : ¬fourthEnded.HasCurrent 1 := by
  rintro ⟨job, found, isCurrent⟩
  cases found
  cases isCurrent

theorem marks_behind_foreground_firstReused :
    Reached firstReused ∧ firstReused.HasCurrent 1 ∧
    ∃ before after : Session,
      before.jobs = (firstReused.add 500 [500] "e" false).2 ∧
      (Shell.waitFor (firstReused.add 500 [500] "e" false).1 false).MayEnd
        before (.ok (.exited 0)) after ∧
      after.jobs.LastIsCurrent ∧
      after.jobs.jobs.map (fun job => (job.serial, job.mark)) =
        [(1, " "), (2, " "), (3, "+")] := by
  have reached : Reached firstReused :=
    reachable_firstReused.lift id fun _ _ step => .step step
  have isCurrent : firstReused.HasCurrent 1 := ⟨_, rfl, rfl⟩
  obtain ⟨foreground, _, _⟩ := marks_behind_foreground reached isCurrent
  obtain ⟨_, last, _⟩ := foreground rfl mayEnd_waitFor_fourth
  exact ⟨reached, isCurrent, _, _, rfl, mayEnd_waitFor_fourth, last, by decide⟩

/-- The job that was current before does not always get the mark back. -/
theorem not_hasCurrent_behind_foreground :
    ¬∀ (table : JobTable) (current : Nat) (before after : Session) (group : Pid)
        (pids : List Pid) (command : String) (status : Int),
      Reachable table → table.HasCurrent current → pids.Nodup →
      (∀ pid ∈ pids, table.owner? pid = none) →
      before.jobs = (table.add group pids command false).2 →
      (Shell.waitFor (table.add group pids command false).1 false).MayEnd before
        (.ok (.exited status)) after →
      after.jobs.HasCurrent current := by
  intro back
  have isCurrent : firstReused.HasCurrent 1 := ⟨_, rfl, rfl⟩
  exact not_hasCurrent_fourthEnded
    (back firstReused 1 _ _ 500 [500] "e" 0 reachable_firstReused
    isCurrent (by decide) (by decide) rfl mayEnd_waitFor_fourth)

end Foreground

end JobTable

end JobShell
