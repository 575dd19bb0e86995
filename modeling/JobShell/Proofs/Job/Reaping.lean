import JobShell.Proofs.Job.Consistency

/-!
# Taking in what has become of the jobs

A look at the processes takes every job that is done out of the table, and
brings what was reported of the others up to date.  The user is told of the jobs
of the background that are done and of those that have stopped since the last
report.  The marks of the job list may move on the way and are left out of
account here.
-/

namespace JobShell

namespace Job

def unmarked (job : Job) : Job :=
  { job with isCurrent := false, isPrevious := false }

def isLive (job : Job) : Bool := job.state != .done

def isNews (job : Job) : Bool :=
  match job.state with
  | .done => job.background
  | .stopped => job.reported != .stopped
  | .running => false

/-- The job when all is reported of it: one that has stopped is in the
background. -/
def settled (job : Job) : Job :=
  { job with
    reported := job.state
    background :=
      job.background || (job.state == .stopped && job.reported != .stopped) }

theorem settled_of_reported {job : Job} (told : job.state = job.reported) :
    job.settled = job := by
  have background :
      (job.background || (job.state == .stopped && job.reported != .stopped)) =
      job.background := by
    rw [← told]
    cases job.state <;> simp
  rw [settled, background, told]

theorem isNews_of_reported {job : Job} (told : job.state = job.reported)
    (live : job.reported ≠ .done) : job.isNews = false := by
  unfold isNews
  rw [told]
  cases reported : job.reported with
  | done => exact absurd reported live
  | stopped => rfl
  | running => rfl

theorem state_eq_done_iff {job : Job} :
    job.state = .done ↔
      ∀ process ∈ job.processes, process.state.isFinished = true := by
  unfold state
  rw [← List.all_eq_true]
  split
  · next finished => simp [finished]
  · next unfinished =>
      split <;> simp [unfinished]

theorem isNews_eq (job : Job) :
    job.isNews = ((job.state == .done && job.background) ||
      (job.state == .stopped && job.reported != .stopped)) := by
  unfold isNews
  cases job.state <;> simp

theorem unmarked_remarked (serial : Nat) (job : Job) :
    (JobTable.remarked serial job).unmarked = job.unmarked := by
  unfold JobTable.remarked
  split
  · rfl
  · split <;> rfl

end Job

namespace JobTable

def unmarked? (table : JobTable) (serial : Nat) : Option Job :=
  (table.get? serial).map Job.unmarked

theorem reported_remarked (serial : Nat) (job : Job) :
    (remarked serial job).reported = job.reported :=
  (congrArg Job.reported (job.unmarked_remarked serial) :)

theorem Consistent.once {table : JobTable} (consistent : table.Consistent) :
    table.serials.Nodup :=
  consistent.ordered.imp Nat.ne_of_lt

theorem Consistent.of_changes {table next : JobTable}
    (consistent : table.Consistent)
    (changes : Changes table next) : next.Consistent :=
  changes.invariant Change.consistent consistent

theorem get?_update_self {table : JobTable} {serial : Nat} {job : Job}
    (found : table.get? serial = some job) (change : Job → Job) :
    (table.update serial change).get? serial = some (change job) := by
  simp [found]

theorem unmarked?_update_of_ne (table : JobTable) {serial key : Nat}
    (different : key ≠ serial) (change : Job → Job) :
    (table.update serial change).unmarked? key = table.unmarked? key := by
  unfold unmarked?
  rw [get?_update]
  cases table.get? key with
  | none => rfl
  | some job => simp [different]

theorem unmarked?_makeCurrent (table : JobTable) (serial key : Nat) :
    (table.makeCurrent serial).unmarked? key = table.unmarked? key := by
  unfold unmarked?
  rw [get?_makeCurrent, Option.map_map]
  apply Option.map_congr
  intro job _
  exact job.unmarked_remarked serial

theorem unmarked?_remove (table : JobTable) (serial key : Nat) :
    (table.remove serial).2.unmarked? key = if key = serial then none
      else table.unmarked? key := by
  cases found : table.get? serial with
  | none =>
      have kept : (table.remove serial).2 = table := by simp [remove, found]
      rw [kept]
      split
      · next same => simp [unmarked?, same, found]
      · rfl
  | some job =>
      have struck : (table.strike serial job).unmarked? key =
          if key = serial then none else table.unmarked? key := by
        unfold unmarked?
        rw [get?_strike]
        split <;> rfl
      rcases remove_of_get? found with alone | ⟨next, _, passedOn⟩
      · rw [alone, struck]
      · rw [passedOn, unmarked?_makeCurrent, struck]

theorem fst_remove (table : JobTable) (serial : Nat) :
    (table.remove serial).1 = table.get? serial := by
  cases found : table.get? serial with
  | none => simp [remove, found]
  | some job =>
      rcases remove_of_get? found with alone | ⟨next, _, passedOn⟩
      · rw [alone]
      · rw [passedOn]

/-- No job has been reported as done: it leaves the table when it is. -/
def Unreported (table : JobTable) : Prop :=
  ∀ (serial : Nat) (job : Job), table.get? serial = some job →
    job.reported ≠ .done

theorem unreported_iff {table : JobTable} :
    table.Unreported ↔
      ∀ (serial : Nat) (job : Job), table.unmarked? serial = some job →
      job.reported ≠ .done := by
  constructor
  · intro unreported serial plain seen
    obtain ⟨job, found, rfl⟩ := Option.map_eq_some_iff.mp seen
    exact unreported serial job found
  · intro unreported serial job found
    apply unreported serial job.unmarked
    rw [unmarked?, found]
    rfl

section SettleJob

variable {table : JobTable} {serial : Nat}

theorem settleJob_of_none (absent : table.get? serial = none) :
    table.settleJob serial = ([], table) := by
  simp [settleJob, absent]

theorem settleJob_of_reported {job : Job} (found : table.get? serial = some job)
    (told : job.state = job.reported) :
    table.settleJob serial = ([], table) := by
  simp [settleJob, found, told]

variable {job : Job} (found : table.get? serial = some job)

include found

theorem settleJob_of_done (done : job.state = .done)
    (news : job.reported ≠ .done) :
    table.settleJob serial =
      (if job.background then [{ job with reported := .done }] else [],
        ((table.update serial
          fun other => { other with reported := .done }).remove serial).2) := by
  have removed :
      (table.update serial fun other => { other with reported := .done }).remove
        serial =
      (some { job with reported := .done },
        ((table.update serial
          fun other => { other with reported := .done }).remove serial).2) := by
    refine Prod.ext ?_ rfl
    rw [fst_remove, get?_update_self found]
  simp only [settleJob, found, done]
  rw [if_neg (Ne.symm news), removed]

theorem settleJob_of_stopped (stopped : job.state = .stopped)
    (news : job.reported ≠ .stopped) :
    table.settleJob serial =
      ([{ job with reported := .stopped, background := true }],
        (table.update serial
          fun other => { other with reported := .stopped }).update serial
          fun other => { other with background := true }) := by
  simp only [settleJob, found, stopped]
  rw [if_neg (Ne.symm news), get?_update_self (get?_update_self found _)]
  rfl

theorem settleJob_of_running (running : job.state = .running)
    (news : job.reported ≠ .running) :
    table.settleJob serial =
      ([], table.update serial
        fun other => { other with reported := .running }) := by
  simp only [settleJob, found, running]
  rw [if_neg (Ne.symm news)]

end SettleJob

/-- The job under one serial is settled, and no other one changes. -/
structure SettlesJob (table : JobTable) (serial : Nat) (notices : List Job)
    (next : JobTable) : Prop where
  notices : notices.map Job.unmarked =
    ((table.unmarked? serial).filter Job.isNews).toList.map Job.settled
  here : next.unmarked? serial =
    ((table.unmarked? serial).filter Job.isLive).map Job.settled
  elsewhere : ∀ key, key ≠ serial → next.unmarked? key = table.unmarked? key

section SettlesJob

variable {table : JobTable} {serial : Nat} {job : Job}
  (found : table.get? serial = some job)

include found

theorem settlesJob_of_get? {notices : List Job} {next : JobTable}
    (told : notices.map Job.unmarked =
      if job.isNews then [job.settled.unmarked] else [])
    (here : next.unmarked? serial =
      if job.isLive then some job.settled.unmarked else none)
    (elsewhere : ∀ key, key ≠ serial →
      next.unmarked? key = table.unmarked? key) :
    table.SettlesJob serial notices next := by
  have seen : table.unmarked? serial = some job.unmarked := by
    rw [unmarked?, found]
    rfl
  refine ⟨?_, ?_, elsewhere⟩
  · have news : job.unmarked.isNews = job.isNews := rfl
    rw [told, seen, Option.filter_some, news]
    split <;> rfl
  · have live : job.unmarked.isLive = job.isLive := rfl
    rw [here, seen, Option.filter_some, live]
    split <;> rfl

theorem settlesJob_of_reported (told : job.state = job.reported)
    (live : job.reported ≠ .done) :
    table.SettlesJob serial [] table := by
  apply settlesJob_of_get? found
  · rw [Job.isNews_of_reported told live]
    rfl
  · have stays : job.isLive = true := by simpa [Job.isLive, told] using live
    rw [stays, Job.settled_of_reported told, unmarked?, found]
    rfl
  · exact fun _ _ => rfl

theorem settlesJob_of_done (done : job.state = .done)
    (news : job.reported ≠ .done) :
    table.SettlesJob serial (table.settleJob serial).1
      (table.settleJob serial).2 := by
  rw [settleJob_of_done found done news]
  apply settlesJob_of_get? found
  · have isNews : job.isNews = job.background := by simp [Job.isNews, done]
    have settled : job.settled = { job with reported := .done } := by
      simp [Job.settled, done]
    rw [isNews, settled]
    split <;> rfl
  · have gone : job.isLive = false := by simp [Job.isLive, done]
    rw [gone, unmarked?_remove, if_pos rfl]
    rfl
  · intro key different
    rw [unmarked?_remove, if_neg different,
      unmarked?_update_of_ne table different]

theorem settlesJob_of_stopped (stopped : job.state = .stopped)
    (news : job.reported ≠ .stopped) :
    table.SettlesJob serial (table.settleJob serial).1
      (table.settleJob serial).2 := by
  have settled :
      job.settled = { job with reported := .stopped, background := true } := by
    simp [Job.settled, stopped, news]
  rw [settleJob_of_stopped found stopped news]
  apply settlesJob_of_get? found
  · have isNews : job.isNews = true := by simp [Job.isNews, stopped, news]
    rw [isNews, settled]
    rfl
  · have stays : job.isLive = true := by simp [Job.isLive, stopped]
    rw [stays, settled, unmarked?, get?_update_self (get?_update_self found _)]
    rfl
  · intro key different
    rw [unmarked?_update_of_ne _ different,
      unmarked?_update_of_ne table different]

theorem settlesJob_of_running (running : job.state = .running)
    (news : job.reported ≠ .running) :
    table.SettlesJob serial (table.settleJob serial).1
      (table.settleJob serial).2 := by
  rw [settleJob_of_running found running news]
  apply settlesJob_of_get? found
  · have noNews : job.isNews = false := by simp [Job.isNews, running]
    rw [noNews]
    rfl
  · have stays : job.isLive = true := by simp [Job.isLive, running]
    have settled : job.settled = { job with reported := .running } := by
      simp [Job.settled, running]
    rw [stays, settled, unmarked?, get?_update_self found]
    rfl
  · intro key different
    rw [unmarked?_update_of_ne table different]

end SettlesJob

theorem settlesJob_settleJob {table : JobTable} (unreported : table.Unreported)
    (serial : Nat) :
    table.SettlesJob serial (table.settleJob serial).1
      (table.settleJob serial).2 := by
  cases found : table.get? serial with
  | none =>
      have absent : table.unmarked? serial = none := by
        rw [unmarked?, found]
        rfl
      rw [settleJob_of_none found]
      exact ⟨by rw [absent]; rfl, by rw [absent]; rfl, fun _ _ => rfl⟩
  | some job =>
      have live : job.reported ≠ .done := unreported serial job found
      by_cases told : job.state = job.reported
      · rw [settleJob_of_reported found told]
        exact settlesJob_of_reported found told live
      · have news : job.reported ≠ job.state := fun same => told same.symm
        cases state : job.state with
        | done => exact settlesJob_of_done found state live
        | stopped => exact settlesJob_of_stopped found state (state ▸ news)
        | running => exact settlesJob_of_running found state (state ▸ news)

theorem SettlesJob.unreported {table next : JobTable} {serial : Nat}
    {notices : List Job} (settles : table.SettlesJob serial notices next)
    (unreported : table.Unreported) :
    next.Unreported := by
  apply unreported_iff.mpr
  intro key job seen
  by_cases same : key = serial
  · rw [same, settles.here] at seen
    obtain ⟨before, stays, rfl⟩ := Option.map_eq_some_iff.mp seen
    have live : before.state ≠ .done := by
      simpa [Job.isLive] using (Option.filter_eq_some_iff.mp stays).2
    exact live
  · rw [settles.elsewhere key same] at seen
    exact unreported_iff.mp unreported key job seen

structure Settles (table : JobTable) (serials : List Nat) (notices : List Job)
    (next : JobTable) : Prop where
  notices : notices.map Job.unmarked =
    ((serials.filterMap table.unmarked?).filter Job.isNews).map Job.settled
  here : ∀ key ∈ serials,
    next.unmarked? key =
      ((table.unmarked? key).filter Job.isLive).map Job.settled
  elsewhere : ∀ key, key ∉ serials → next.unmarked? key = table.unmarked? key

theorem settles_settleAll {serials : List Nat} (once : serials.Nodup)
    {table : JobTable} (unreported : table.Unreported) :
    table.Settles serials (table.settleAll serials).1
      (table.settleAll serials).2 := by
  induction serials generalizing table with
  | nil => exact ⟨rfl, nofun, fun _ _ => rfl⟩
  | cons serial serials induction =>
      obtain ⟨notLater, onceLater⟩ := List.nodup_cons.mp once
      have first := settlesJob_settleJob unreported serial
      have others := induction onceLater (first.unreported unreported)
      have shape : table.settleAll (serial :: serials) =
          ((table.settleJob serial).1 ++
            ((table.settleJob serial).2.settleAll serials).1,
            ((table.settleJob serial).2.settleAll serials).2) := rfl
      rw [shape]
      refine ⟨?_, ?_, ?_⟩
      · -- the first job is none of the later ones, which are still as they were
        have later : serials.filterMap (table.settleJob serial).2.unmarked? =
            serials.filterMap table.unmarked? := by
          apply List.filterMap_congr
          intro key member
          exact first.elsewhere key fun same => notLater (same ▸ member)
        rw [List.map_append, first.notices, others.notices,
          later, ← List.map_append]
        congr 1
        cases seen : table.unmarked? serial with
        | none => simp [seen]
        | some job =>
            cases news : job.isNews <;> simp [seen, news, Option.filter_some]
      · intro key member
        by_cases same : key = serial
        · rw [others.elsewhere key (same ▸ notLater), same]
          exact first.here
        · have inRest := List.mem_of_ne_of_mem same member
          rw [others.here key inRest, first.elsewhere key same]
      · intro key absent
        rw [List.mem_cons, not_or] at absent
        rw [others.elsewhere key absent.2, first.elsewhere key absent.1]

theorem filterMap_unmarked? {table : JobTable} (once : table.serials.Nodup) :
    table.serials.filterMap table.unmarked? = table.jobs.map Job.unmarked := by
  unfold serials jobs
  rw [List.filterMap_map, List.map_map, ← List.filterMap_eq_map]
  apply List.filterMap_congr
  intro entry member
  have found : table.get? entry.1 = some entry.2 :=
    (lookup_eq_some_iff_mem once).mpr member
  simp [unmarked?, found]

theorem settleAll_of_reported {table : JobTable} {serials : List Nat}
    (told : ∀ (serial : Nat) (job : Job), table.get? serial = some job →
      job.state = job.reported) :
    table.settleAll serials = ([], table) := by
  induction serials with
  | nil => rfl
  | cons serial serials induction =>
      have first : table.settleJob serial = ([], table) := by
        cases found : table.get? serial with
        | none => exact settleJob_of_none found
        | some job => exact settleJob_of_reported found (told serial job found)
      rw [settleAll, first]
      simp only [induction, List.append_nil]

theorem Unreported.update {table : JobTable} (unreported : table.Unreported)
    (serial : Nat) {change : Job → Job}
    (keeps : ∀ job : Job, job.reported ≠ .done →
      (change job).reported ≠ .done) :
    (table.update serial change).Unreported := by
  intro key job found
  rw [get?_update] at found
  obtain ⟨before, foundBefore, rfl⟩ := Option.map_eq_some_iff.mp found
  have live := unreported key before foundBefore
  split
  · exact keeps before live
  · exact live

theorem Unreported.makeCurrent {table : JobTable}
    (unreported : table.Unreported) (serial : Nat) :
    (table.makeCurrent serial).Unreported := by
  apply unreported_iff.mpr
  intro key job seen
  rw [unmarked?_makeCurrent] at seen
  exact unreported_iff.mp unreported key job seen

theorem Unreported.remove {table : JobTable} (unreported : table.Unreported)
    (serial : Nat) :
    (table.remove serial).2.Unreported := by
  apply unreported_iff.mpr
  intro key job seen
  rw [unmarked?_remove] at seen
  split at seen
  · cases seen
  · exact unreported_iff.mp unreported key job seen

theorem Unreported.record {table : JobTable} (unreported : table.Unreported)
    (pid : Pid) (state : ProcessState) :
    (table.record pid state).Unreported := by
  intro key job found
  rcases get?_record_cases table pid state key with same | recorded
  · rw [same] at found
    exact unreported key job found
  · rw [recorded] at found
    obtain ⟨before, foundBefore, rfl⟩ := Option.map_eq_some_iff.mp found
    exact unreported key before foundBefore

theorem Unreported.records {table next : JobTable}
    (unreported : table.Unreported)
    (records : Records table next) : next.Unreported :=
  records.invariant
    (fun _ pid state unreported => unreported.record pid state) unreported

theorem Unreported.add {table : JobTable} (unreported : table.Unreported)
    (group : Pid) (pids : List Pid) (command : String) (background : Bool) :
    (table.add group pids command background).2.Unreported := by
  intro key job found
  rw [get?_add] at found
  split at found
  · cases found
    rw [reported_remarked]
    nofun
  · obtain ⟨before, foundBefore, rfl⟩ := Option.map_eq_some_iff.mp found
    rw [reported_remarked]
    exact unreported key before foundBefore

/-- What holds of the tables that calls leave behind: the two maps agree, and no
job waits to be taken out that has been reported as done. -/
structure Sound (table : JobTable) : Prop where
  consistent : table.Consistent
  unreported : table.Unreported

theorem Sound.records {table next : JobTable} (sound : table.Sound)
    (records : Records table next) : next.Sound :=
  ⟨sound.consistent.of_changes records.changes,
    sound.unreported.records records⟩

theorem map_serial_jobs {table : JobTable} (consistent : table.Consistent) :
    table.jobs.map Job.serial = table.serials := by
  unfold jobs serials
  rw [List.map_map]
  apply List.map_congr_left
  intro entry member
  exact consistent.keyed (consistent.get?_eq_some_iff.mpr member)

theorem mem_jobs_iff {table : JobTable} (consistent : table.Consistent)
    {job : Job} :
    job ∈ table.jobs ↔ table.get? job.serial = some job := by
  constructor
  · intro listed
    obtain ⟨entry, member, rfl⟩ := List.mem_map.mp listed
    have found := consistent.get?_eq_some_iff.mpr member
    rwa [consistent.keyed found]
  · intro found
    exact List.mem_map.mpr ⟨_, consistent.get?_eq_some_iff.mp found, rfl⟩

/-- What a look leaves and tells, given the table `recorded` in which its
answers are noted. -/
structure Reaps (recorded : JobTable) (notices : List Job)
    (next : JobTable) : Prop where
  /-- Exactly the jobs all of whose processes have finished are gone. -/
  removed : ∀ (serial : Nat) (job : Job), recorded.get? serial = some job →
    (next.get? serial = none ↔
      ∀ process ∈ job.processes, process.state.isFinished = true)
  /-- No job comes, and a job that stays is as it was, with all reported of
  it. -/
  kept : ∀ (serial : Nat) (job : Job), next.get? serial = some job →
    ∃ before, recorded.get? serial = some before ∧
      job.unmarked = before.settled.unmarked
  /-- Of the finished jobs those of the background are told of, and of the
  stopped ones those that were not reported as stopped. -/
  listed : notices.map Job.unmarked =
    (recorded.jobs.filter fun job => (job.state == .done && job.background) ||
      (job.state == .stopped && job.reported != .stopped)).map fun job =>
      job.settled.unmarked
  inOrder : (notices.map Job.serial).Pairwise (· < ·)
  /-- A stopped job that is told of stays, and is in the background. -/
  stoppedStay : ∀ notice ∈ notices, notice.state = .stopped →
    notice.background = true ∧
      ∃ job, next.get? notice.serial = some job ∧ job.unmarked = notice.unmarked
  told : ∀ (serial : Nat) (job : Job), next.get? serial = some job →
    job.state ≠ .done ∧ job.reported = job.state

section Reap

variable {recorded next : JobTable} {notices : List Job}

theorem Settles.get?_eq_none_iff_done
    (settles : recorded.Settles recorded.serials notices next) {serial : Nat}
    {job : Job} (found : recorded.get? serial = some job) :
    next.get? serial = none ↔ job.state = .done := by
  have here := settles.here serial (isSome_get?_iff.mp (by simp [found]))
  have plain : job.unmarked.isLive = job.isLive := rfl
  rw [← Option.map_eq_none_iff, ← unmarked?, here, unmarked?, found,
    Option.map_some, Option.filter_some, plain]
  cases live : job.isLive <;> simp_all [Job.isLive]

theorem Settles.before
    (settles : recorded.Settles recorded.serials notices next) {serial : Nat}
    {job : Job} (found : next.get? serial = some job) :
    ∃ before, recorded.get? serial = some before ∧ before.isLive = true ∧
      job.unmarked = before.settled.unmarked := by
  have seen : next.unmarked? serial = some job.unmarked := by
    rw [unmarked?, found]
    rfl
  by_cases known : serial ∈ recorded.serials
  · rw [settles.here serial known] at seen
    obtain ⟨plain, stays, same⟩ := Option.map_eq_some_iff.mp seen
    obtain ⟨seenBefore, live⟩ := Option.filter_eq_some_iff.mp stays
    obtain ⟨before, foundBefore, rfl⟩ := Option.map_eq_some_iff.mp seenBefore
    exact ⟨before, foundBefore, live, same.symm⟩
  · have absent := get?_eq_none_iff.mpr known
    rw [settles.elsewhere serial known, unmarked?, absent] at seen
    cases seen

theorem Settles.listed
    (settles : recorded.Settles recorded.serials notices next)
    (once : recorded.serials.Nodup) :
    notices.map Job.unmarked =
      (recorded.jobs.filter Job.isNews).map fun job =>
        job.settled.unmarked := by
  rw [settles.notices, filterMap_unmarked? once, List.filter_map, List.map_map]
  rfl

theorem Settles.mem_notices
    (settles : recorded.Settles recorded.serials notices next)
    (once : recorded.serials.Nodup) {notice : Job} (member : notice ∈ notices) :
    ∃ job ∈ recorded.jobs,
      job.isNews = true ∧ notice.unmarked = job.settled.unmarked := by
  have plain : notice.unmarked ∈ notices.map Job.unmarked :=
    List.mem_map_of_mem member
  rw [settles.listed once] at plain
  obtain ⟨job, news, same⟩ := List.mem_map.mp plain
  obtain ⟨listed, isNews⟩ := List.mem_filter.mp news
  exact ⟨job, listed, isNews, same.symm⟩

theorem Settles.reaps (settles : recorded.Settles recorded.serials notices next)
    (consistent : recorded.Consistent) : Reaps recorded notices next where
  removed := by
    intro serial job found
    rw [settles.get?_eq_none_iff_done found]
    exact Job.state_eq_done_iff
  kept := by
    intro serial job found
    obtain ⟨before, foundBefore, _, same⟩ := settles.before found
    exact ⟨before, foundBefore, same⟩
  listed := by
    rw [settles.listed consistent.once]
    congr 2
    funext job
    exact job.isNews_eq
  inOrder := by
    have serials : notices.map Job.serial =
        (recorded.jobs.filter Job.isNews).map Job.serial := by
      have same :=
        congrArg (List.map Job.serial) (settles.listed consistent.once)
      rwa [List.map_map, List.map_map] at same
    rw [serials]
    apply List.Pairwise.sublist (List.filter_sublist.map Job.serial)
    rw [map_serial_jobs consistent]
    exact consistent.ordered
  stoppedStay := by
    intro notice member stopped
    obtain ⟨job, listed, news, same⟩ :=
      settles.mem_notices consistent.once member
    have stoppedBefore : job.state = .stopped :=
      (congrArg Job.state same).symm.trans stopped
    have notTold : job.reported ≠ .stopped := by
      simpa [Job.isNews, stoppedBefore] using news
    have found := (mem_jobs_iff consistent).mp listed
    have serial : notice.serial = job.serial := (congrArg Job.serial same :)
    constructor
    · have background : notice.background = job.settled.background :=
        (congrArg Job.background same :)
      rw [background]
      simp [Job.settled, stoppedBefore, notTold]
    · have stays : next.get? job.serial ≠ none := by
        rw [Ne, settles.get?_eq_none_iff_done found, stoppedBefore]
        nofun
      obtain ⟨left, foundLeft⟩ := Option.ne_none_iff_exists'.mp stays
      obtain ⟨before, foundBefore, _, sameLeft⟩ := settles.before foundLeft
      cases found.symm.trans foundBefore
      exact ⟨left, serial ▸ foundLeft, sameLeft.trans same.symm⟩
  told := by
    intro serial job found
    obtain ⟨before, _, live, same⟩ := settles.before found
    have state : job.state = before.state := (congrArg Job.state same :)
    have reported : job.reported = before.state :=
      (congrArg Job.reported same :)
    constructor
    · rw [state]
      simpa [Job.isLive] using live
    · rw [reported, state]

end Reap

theorem reaps {table : JobTable} (sound : table.Sound)
    (answers : List (Pid × WaitAnswer)) :
    Reaps (table.recordAnswers answers) (table.reap answers).1
      (table.reap answers).2 := by
  have recorded := sound.records (records_recordAnswers table answers)
  have settles := settles_settleAll recorded.consistent.once recorded.unreported
  exact settles.reaps recorded.consistent

/-- A look that finds nothing new after a look tells nothing and changes
nothing. -/
theorem Reaps.reap_again {recorded next : JobTable} {notices : List Job}
    (reaps : Reaps recorded notices next) {again : List (Pid × WaitAnswer)}
    (silent : next.recordAnswers again = next) :
    next.reap again = ([], next) := by
  rw [reap]
  simp only [silent]
  apply settleAll_of_reported
  intro serial job found
  exact (reaps.told serial job found).2.symm

theorem Reaps.unreported {recorded next : JobTable} {notices : List Job}
    (reaps : Reaps recorded notices next) : next.Unreported := by
  intro serial job found
  obtain ⟨live, told⟩ := reaps.told serial job found
  rwa [told]

end JobTable

end JobShell
