import Mathlib.Order.Bounds.Defs
import JobShell.Proofs.Job.Serial
import JobShell.Proofs.Job.Succession

/-!
# How jobs are numbered

A new job gets the least serial that is free.  The search for it takes one
serial after the other and has no bound of its own, but it comes to an end
within one step more than there are jobs.  Since serials are taken up again,
none is ever greater than the number of jobs that the table has held at one
time.
-/

namespace JobShell

namespace JobTable

/-- A search that goes on from `serial` for as long as there is a job ends at
`found`. -/
inductive SearchEnds (table : JobTable) : (serial found : Nat) → Prop where
  | free {serial : Nat} (nobody : table.get? serial = none) :
      SearchEnds table serial serial
  | taken {serial found : Nat} (somebody : (table.get? serial).isSome)
      (later : SearchEnds table (serial + 1) found) :
        SearchEnds table serial found

theorem searchEnds_iff {table : JobTable} {serial found : Nat} :
    table.SearchEnds serial found ↔
      serial ≤ found ∧ table.get? found = none ∧
        ∀ key, serial ≤ key → key < found → (table.get? key).isSome := by
  constructor
  · intro ends
    induction ends with
    | free nobody =>
        exact ⟨Nat.le_refl _, nobody, fun key lower upper => by omega⟩
    | @taken serial found somebody later induction =>
        obtain ⟨ahead, nobody, passed⟩ := induction
        refine ⟨by omega, nobody, fun key lower upper => ?_⟩
        rcases Nat.eq_or_lt_of_le lower with rfl | behind
        · exact somebody
        · exact passed key behind upper
  · rintro ⟨ahead, nobody, passed⟩
    -- the induction is on the serials that are still to be passed
    induction steps : found - serial generalizing serial with
    | zero =>
        obtain rfl : serial = found := by omega
        exact .free nobody
    | succ steps induction =>
        have later : table.SearchEnds (serial + 1) found :=
          induction (by omega)
            (fun key lower upper => passed key (by omega) upper) (by omega)
        exact .taken (passed serial (Nat.le_refl _) (by omega)) later

theorem freeFrom_le (table : JobTable) (fuel serial : Nat) :
    table.freeFrom fuel serial ≤ serial + fuel := by
  induction fuel generalizing serial with
  | zero => exact Nat.le_refl _
  | succ fuel induction =>
      rw [freeFrom]
      split
      · have later := induction (serial + 1)
        omega
      · omega

theorem le_freeFrom (table : JobTable) (fuel serial : Nat) :
    serial ≤ table.freeFrom fuel serial := by
  induction fuel generalizing serial with
  | zero => exact Nat.le_refl _
  | succ fuel induction =>
      rw [freeFrom]
      split
      · have later := induction (serial + 1)
        omega
      · exact Nat.le_refl _

theorem nextSerial_pos (table : JobTable) : 1 ≤ table.nextSerial :=
  table.le_freeFrom table.size 1

theorem nextSerial_le (table : JobTable) :
    table.nextSerial ≤ table.size + 1 := by
  have bounded := table.freeFrom_le table.size 1
  unfold nextSerial
  omega

theorem isSome_get?_of_lt_nextSerial {table : JobTable} {serial : Nat}
    (positive : 1 ≤ serial) (below : serial < table.nextSerial) :
    (table.get? serial).isSome :=
  isSome_get?_of_lt_freeFrom positive below

/-- The search from 1 on ends, at the next serial and nowhere else. -/
theorem searchEnds_one_iff {table : JobTable} {found : Nat} :
    table.SearchEnds 1 found ↔ found = table.nextSerial := by
  have free := table.get?_nextSerial
  rw [searchEnds_iff]
  constructor
  · rintro ⟨positive, nobody, passed⟩
    rcases Nat.lt_trichotomy found table.nextSerial with below | same | above
    · have taken := isSome_get?_of_lt_nextSerial positive below
      rw [nobody] at taken
      cases taken
    · exact same
    · have taken := passed table.nextSerial table.nextSerial_pos above
      rw [free] at taken
      cases taken
  · rintro rfl
    exact ⟨table.nextSerial_pos, free, fun key => isSome_get?_of_lt_nextSerial⟩

theorem isLeast_nextSerial (table : JobTable) :
    IsLeast {serial | 1 ≤ serial ∧
      serial ∉ table.serials} table.nextSerial := by
  refine ⟨⟨table.nextSerial_pos, get?_eq_none_iff.mp table.get?_nextSerial⟩, ?_⟩
  rintro serial ⟨positive, unused⟩
  by_contra below
  exact unused
    (isSome_get?_iff.mp
      (isSome_get?_of_lt_nextSerial positive (Nat.not_le.mp below)))

theorem length_place {serial : Nat} (job : Job) {entries : List (Nat × Job)}
    (absent : serial ∉ entries.map Prod.fst) :
    (place serial job entries).length = entries.length + 1 := by
  induction entries with
  | nil => rfl
  | cons entry entries induction =>
      obtain ⟨other, held⟩ := entry
      rw [List.map_cons, List.mem_cons, not_or] at absent
      unfold place
      split
      · rfl
      · rw [if_neg absent.1, List.length_cons, induction absent.2,
          List.length_cons]

section Add

variable (table : JobTable) (group : Pid) (pids : List Pid) (command : String)
  (background : Bool)

theorem size_add :
    (table.add group pids command background).2.size = table.size + 1 := by
  have absent : table.nextSerial ∉ table.entries.map Prod.fst :=
    get?_eq_none_iff.mp table.get?_nextSerial
  simp [size, add, makeCurrent, List.length_map, length_place _ absent, size]

/-- The new job stands under the next serial, and apart from the marks the
others stay as they are. -/
theorem unmarked?_add (serial : Nat) :
    (table.add group pids command background).2.unmarked? serial =
      if serial = table.nextSerial then
        some (Job.launched group table.nextSerial pids command background)
      else table.unmarked? serial := by
  rw [unmarked?, get?_add]
  split
  · exact congrArg some (Job.unmarked_remarked _ _)
  · rw [unmarked?, Option.map_map]
    congr
    funext job
    exact job.unmarked_remarked table.nextSerial

theorem mem_serials_add {serial : Nat} :
    serial ∈ (table.add group pids command background).2.serials ↔
      serial = table.nextSerial ∨ serial ∈ table.serials := by
  rw [← isSome_get?_iff, get?_add, ← isSome_get?_iff]
  split
  · next same => simp [same]
  · next different => simp [different]

end Add

theorem serials_remove_subset (table : JobTable) (serial : Nat) :
    (table.remove serial).2.serials ⊆ table.serials := by
  cases found : table.get? serial with
  | none =>
      have kept : (table.remove serial).2 = table := by
        simp [JobTable.remove, found]
      rw [kept]
      exact List.Subset.refl _
  | some job =>
      have struck : (table.strike serial job).serials ⊆ table.serials := by
        rw [serials_strike]
        exact List.filter_subset_self _
      rcases remove_of_get? found with same | ⟨next, _, same⟩
      · rwa [same]
      · rwa [same, serials_makeCurrent]

theorem serials_settleJob_subset (table : JobTable) (serial : Nat) :
    (table.settleJob serial).2.serials ⊆ table.serials := by
  unfold settleJob
  split
  · exact List.Subset.refl _
  · next job found =>
      dsimp only
      split
      · exact List.Subset.refl _
      · have told := serials_update table serial fun other =>
          { other with reported := job.state }
        split
        · have removed := serials_remove_subset
            (table.update serial
              fun other => { other with reported := job.state }) serial
          rw [told] at removed
          split <;> next same => simpa only [same] using removed
        · dsimp only
          rw [serials_update, told]
          exact List.Subset.refl _
        · rw [told]
          exact List.Subset.refl _

theorem serials_settleAll_subset (serials : List Nat) (table : JobTable) :
    (table.settleAll serials).2.serials ⊆ table.serials := by
  induction serials generalizing table with
  | nil => exact List.Subset.refl _
  | cons serial serials induction =>
      exact List.Subset.trans (induction _)
        (serials_settleJob_subset table serial)

theorem serials_reap_subset (table : JobTable)
    (answers : List (Pid × WaitAnswer)) :
    (table.reap answers).2.serials ⊆ table.serials := by
  have settled :
      (table.reap answers).2.serials ⊆ (table.recordAnswers answers).serials :=
    serials_settleAll_subset _ _
  rwa [serials_of_records (records_recordAnswers table answers)] at settled

section Calls

variable {table next : JobTable}

theorem Waited.serials_subset {serial : Nat} {resume : Bool}
    {outcome : Except Failure WaitOutcome}
    (waited : Waited serial resume table outcome next) :
    next.serials ⊆ table.serials := by
  have same : ∀ {noted : JobTable},
      Records (table.broughtForward serial resume) noted →
      noted.serials = table.serials :=
    fun records =>
      (serials_of_records records).trans
        (serials_broughtForward table serial resume)
  cases waited with
  | unknown absent => exact List.Subset.refl _
  | failed failure known records =>
      rw [same records]
      exact List.Subset.refl _
  | @finished noted job known records found done =>
      have removed := serials_remove_subset noted serial
      rwa [same records] at removed
  | stopped known records found live =>
      rw [leftStopped, serials_update, same records]
      exact List.Subset.refl _

/-- A call adds a job, or no serial is new behind it. -/
theorem Step.adds_or_subset (step : Step table next) :
    (∃ group pids command background,
      next = (table.add group pids command background).2) ∨
      next.serials ⊆ table.serials := by
  cases step with
  | add group pids command background distinct free =>
      exact .inl ⟨group, pids, command, background, rfl⟩
  | remove serial => exact .inr (serials_remove_subset table serial)
  | record pid state =>
      rw [serials_record]
      exact .inr (List.Subset.refl _)
  | takeIn answers => exact .inr (serials_reap_subset table answers)
  | @reap before after outcome ends =>
      obtain ⟨answers, _, _, rfl⟩ := Shell.mayEnd_reap.mp ends
      exact .inr (serials_reap_subset before.jobs answers)
  | waitFor ends => exact .inr (Shell.waited_of_mayEnd ends).serials_subset
  | @resumeBackground before after serial outcome ends =>
      right
      rcases Shell.jobs_of_resumeBackground ends with same | ⟨_, goesOn⟩
      · rw [same]
        exact List.Subset.refl _
      · rw [goesOn, serials_resumed]
        exact List.Subset.refl _
  | signalJob ends =>
      rw [Shell.session_of_signalJob ends]
      exact .inr (List.Subset.refl _)
  | hangUpAll ends =>
      rw [Shell.session_of_hangUpAll ends]
      exact .inr (List.Subset.refl _)

theorem Move.adds_or_subset (move : Move table next) :
    (∃ group pids command background,
      next = (table.add group pids command background).2) ∨
      next.serials ⊆ table.serials := by
  cases move with
  | add group pids command background =>
      exact .inl ⟨group, pids, command, background, rfl⟩
  | step step => exact step.adds_or_subset

end Calls

/-- A table that calls have made of the empty one, and the tables that were
there before it, the latest first. -/
inductive Run : JobTable → List JobTable → Prop where
  | start : Run empty []
  | call {table next : JobTable} {earlier : List JobTable}
      (run : Run table earlier)
      (move : Move table next) : Run next (table :: earlier)

section Run

variable {table : JobTable} {earlier : List JobTable}

theorem Run.reached (run : Run table earlier) : Reached table := by
  induction run with
  | start => exact .refl
  | call _ move induction => exact induction.tail move

/-- A serial lies between 1 and the number of jobs that some table of the run
has held: a new one is at most the number of jobs that it makes. -/
theorem Run.serial_bounds (run : Run table earlier) :
    ∀ serial ∈ table.serials,
      1 ≤ serial ∧ ∃ former ∈ table :: earlier, serial ≤ former.size := by
  induction run with
  | start => nofun
  | @call table next earlier run move induction =>
      have old : ∀ serial ∈ table.serials,
          1 ≤ serial ∧
          ∃ former ∈ next :: table :: earlier, serial ≤ former.size := by
        intro serial known
        obtain ⟨positive, former, member, bounded⟩ := induction serial known
        exact ⟨positive, former, List.mem_cons_of_mem _ member, bounded⟩
      intro serial known
      rcases move.adds_or_subset with
        ⟨group, pids, command, background, rfl⟩ | subset
      · rcases (table.mem_serials_add group pids command background).mp known
          with rfl | before
        · refine ⟨table.nextSerial_pos, _, List.mem_cons_self, ?_⟩
          rw [size_add]
          exact table.nextSerial_le
        · exact old serial before
      · exact old serial (subset known)

end Run

/-- In every run, all serials are positive, the search for a free one ends at
the least positive serial that no job has, and a new job gets this one and takes
the place of no other.  No serial is greater than the number of jobs in some
table of the run up to then. -/
theorem numbers_jobs_lowest_first {table : JobTable} {earlier : List JobTable}
    (run : Run table earlier) :
    (∀ job ∈ table.jobs, 1 ≤ job.serial) ∧
    (∀ found, table.SearchEnds 1 found ↔ found = table.nextSerial) ∧
    IsLeast {serial | 1 ≤ serial ∧
      ∀ job ∈ table.jobs, job.serial ≠ serial} table.nextSerial ∧
    table.nextSerial ≤ table.size + 1 ∧
    (∀ (group : Pid) (pids : List Pid) (command : String) (background : Bool),
      (table.add group pids command background).1 = table.nextSerial ∧
      table.get? table.nextSerial = none ∧
      (table.add group pids command background).2.size = table.size + 1 ∧
      ∀ serial, (table.add group pids command background).2.unmarked? serial =
        if serial = table.nextSerial then
          some (Job.launched group table.nextSerial pids command background)
        else table.unmarked? serial) ∧
    ∀ job ∈ table.jobs, ∃ former ∈ table :: earlier,
      job.serial ≤ former.size := by
  obtain ⟨_, _, marks, _⟩ := run.reached.marked
  have known : ∀ job ∈ table.jobs, job.serial ∈ table.serials := by
    intro job listed
    rw [← marks.map_serial_jobs]
    exact List.mem_map_of_mem listed
  have unused : ∀ serial, (∀ job ∈ table.jobs, job.serial ≠ serial) ↔
      serial ∉ table.serials := by
    intro serial
    rw [← marks.map_serial_jobs, List.mem_map]
    simp
  have least := table.isLeast_nextSerial
  simp only [← unused] at least
  refine ⟨fun job listed => (run.serial_bounds _ (known job listed)).1,
    fun _ => searchEnds_one_iff, least, table.nextSerial_le,
      fun group pids command background => ?_,
    fun job listed => (run.serial_bounds _ (known job listed)).2⟩
  exact ⟨rfl, table.get?_nextSerial,
    table.size_add group pids command background,
    table.unmarked?_add group pids command background⟩

/-- Three jobs, of which the first has gone. -/
def firstLeft : JobTable :=
  ((((empty.add 100 [100] "a" true).2.add 200 [200, 201] "b" true).2.add 300
    [300] "c" false).2.remove 1).2

/-- The serial that has become free comes before the one behind the last job. -/
theorem numbers_jobs_lowest_first_firstLeft :
    ∃ earlier, Run firstLeft earlier ∧ earlier.map size = [3, 2, 1, 0] ∧
      firstLeft.jobs.map Job.serial = [2, 3] ∧ firstLeft.SearchEnds 1 1 ∧
      (firstLeft.add 400 [400] "d" true).1 = 1 ∧
      (firstLeft.add 400 [400] "d" true).2.size = 3 ∧
      ∀ job ∈ firstLeft.jobs, ∃ former ∈ firstLeft :: earlier,
        job.serial ≤ former.size := by
  have run :=
    (((Run.start.call (.add 100 [100] "a" true)).call
      (.add 200 [200, 201] "b" true)).call
    (.add 300 [300] "c" false)).call (.step (.remove 1))
  obtain ⟨_, ends, _, _, adds, bounded⟩ := numbers_jobs_lowest_first run
  obtain ⟨serial, _, size, _⟩ := adds 400 [400] "d" true
  have lowest : firstLeft.nextSerial = 1 := by decide
  exact ⟨_, run, by decide, by decide, (ends 1).mpr lowest.symm,
    serial.trans lowest, size, bounded⟩

end JobTable

end JobShell
