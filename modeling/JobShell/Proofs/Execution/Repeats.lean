import JobShell.Proofs.Execution.JobList
import JobShell.Proofs.Job.Departure
import JobShell.Proofs.Job.Hearing
import Mathlib.Data.List.Count
import Mathlib.Data.List.Sort

/-!
# How often a job is listed

The list is made of what a look tells of and of what it leaves in the table.  A
job that is done is in the first part or in none, and one that goes on is in the
second part; but a job that has stopped since the last report is told of and
stays, and so it has two lines.
-/

namespace JobShell

namespace Job

/-- How many lines the job has in the list, with what the look has shown of it
noted. -/
def timesListed (job : Job) : Nat :=
  match job.state with
  | .done => if job.background then 1 else 0
  | .stopped => if job.reported = .stopped then 1 else 2
  | .running => 1

theorem timesListed_eq (job : Job) :
    job.timesListed = (if job.isNews then 1 else 0) +
      (if job.isLive then 1 else 0) := by
  unfold timesListed isNews isLive
  cases job.state with
  | done => cases job.background <;> rfl
  | stopped => by_cases told : job.reported = .stopped <;> simp [told]
  | running => rfl

theorem timesListed_le_one_iff {job : Job} :
    job.timesListed ≤ 1 ↔ (job.state = .stopped → job.reported = .stopped) := by
  unfold timesListed
  cases job.state with
  | done => cases job.background <;> simp
  | stopped => by_cases told : job.reported = .stopped <;> simp [told]
  | running => simp

end Job

namespace JobTable

section Left

variable {recorded next : JobTable} {notices : List Job}
  (settles : recorded.Settles recorded.serials notices next)
    (consistent : recorded.Consistent)

include settles consistent

theorem Settles.unmarked?_of_live {job : Job} (listed : job ∈ recorded.jobs)
    (live : job.isLive = true) :
    next.unmarked? job.serial = some job.settled.unmarked := by
  have found := (mem_jobs_iff consistent).mp listed
  have plain : job.unmarked.isLive = job.isLive := rfl
  rw [settles.here job.serial (isSome_get?_iff.mp (by simp [found])),
    unmarked?, found, Option.map_some, Option.filter_some, plain, if_pos live]
  rfl

theorem Settles.mem_serials_iff {serial : Nat} :
    serial ∈ next.serials ↔
      serial ∈ (recorded.jobs.filter Job.isLive).map Job.serial := by
  rw [← isSome_get?_iff]
  constructor
  · intro known
    obtain ⟨job, found⟩ := Option.isSome_iff_exists.mp known
    obtain ⟨before, foundBefore, live, _⟩ := settles.before found
    have keyed : before.serial = serial := consistent.keyed foundBefore
    have listed : before ∈ recorded.jobs :=
      (mem_jobs_iff consistent).mpr (keyed ▸ foundBefore)
    exact List.mem_map.mpr ⟨before, List.mem_filter.mpr ⟨listed, live⟩, keyed⟩
  · intro member
    obtain ⟨before, stays, rfl⟩ := List.mem_map.mp member
    obtain ⟨listed, live⟩ := List.mem_filter.mp stays
    obtain ⟨job, found, _⟩ :=
      Option.map_eq_some_iff.mp
        (settles.unmarked?_of_live consistent listed live)
    exact Option.isSome_of_eq_some found

/-- What is left are the jobs that are not done, in their order. -/
theorem Settles.left (ordered : next.serials.Pairwise (· < ·)) :
    next.jobs.map Job.unmarked =
      (recorded.jobs.filter Job.isLive).map fun job =>
        job.settled.unmarked := by
  have orderedBefore :
      ((recorded.jobs.filter Job.isLive).map Job.serial).Pairwise (· < ·) := by
    apply List.Pairwise.sublist (List.filter_sublist.map Job.serial)
    rw [map_serial_jobs consistent]
    exact consistent.ordered
  have serials :
      next.serials = (recorded.jobs.filter Job.isLive).map Job.serial :=
    ordered.eq_of_mem_iff orderedBefore fun serial =>
      settles.mem_serials_iff consistent
  have once : next.serials.Nodup := ordered.imp Nat.ne_of_lt
  rw [← filterMap_unmarked? once, serials,
    List.filterMap_map, ← List.filterMap_eq_map]
  apply List.filterMap_congr
  intro job stays
  obtain ⟨listed, live⟩ := List.mem_filter.mp stays
  exact settles.unmarked?_of_live consistent listed live

end Left

section Count

variable {table : JobTable} (consistent : table.Consistent)

include consistent

theorem count_serial_filter (keep : Job → Bool) (serial : Nat) :
    ((table.jobs.filter keep).map Job.serial).count serial =
      if (table.get? serial).any keep then 1 else 0 := by
  have once : ((table.jobs.filter keep).map Job.serial).Nodup := by
    apply List.Nodup.sublist (List.filter_sublist.map Job.serial)
    rw [map_serial_jobs consistent]
    exact consistent.once
  have member : serial ∈ (table.jobs.filter keep).map Job.serial ↔
      (table.get? serial).any keep = true := by
    rw [Option.any_eq_true, List.mem_map]
    constructor
    · rintro ⟨job, kept, rfl⟩
      obtain ⟨listed, keeps⟩ := List.mem_filter.mp kept
      exact ⟨job, (mem_jobs_iff consistent).mp listed, keeps⟩
    · rintro ⟨job, found, keeps⟩
      have keyed : job.serial = serial := consistent.keyed found
      have listed : job ∈ table.jobs :=
        (mem_jobs_iff consistent).mpr (keyed ▸ found)
      exact ⟨job, List.mem_filter.mpr ⟨listed, keeps⟩, keyed⟩
  rw [once.count]
  exact if_congr member rfl rfl

end Count

section Listed

variable {table : JobTable} (sound : table.Sound) (answer : Pid → WaitAnswer)

include sound

theorem settles_looks :
    (table.recordAnswers (table.looks answer)).Settles
      (table.recordAnswers (table.looks answer)).serials
      (table.reap (table.looks answer)).1
        (table.reap (table.looks answer)).2 := by
  have recorded :=
    sound.records (records_recordAnswers table (table.looks answer))
  exact settles_settleAll recorded.consistent.once recorded.unreported

theorem consistent_looks :
    (table.recordAnswers (table.looks answer)).Consistent :=
  (sound.records (records_recordAnswers table (table.looks answer))).consistent

theorem ordered_reap :
    (table.reap (table.looks answer)).2.serials.Pairwise (· < ·) :=
  (sound.consistent.of_changes
    (changes_reap table (table.looks answer))).ordered

theorem left_reap :
    (table.reap (table.looks answer)).2.jobs.map Job.unmarked =
      ((table.recordAnswers (table.looks answer)).jobs.filter Job.isLive).map
        fun job => job.settled.unmarked :=
  (settles_looks sound answer).left (consistent_looks sound answer)
    (ordered_reap sound answer)

theorem count_serial_listed (serial : Nat) :
    ((table.listed answer).map Job.serial).count serial =
      (((table.recordAnswers (table.looks answer)).get? serial).map
        Job.timesListed).getD 0 := by
  have consistent := consistent_looks sound answer
  have told := congrArg (List.map Job.serial)
    ((settles_looks sound answer).listed consistent.once)
  have left := congrArg (List.map Job.serial) (left_reap sound answer)
  rw [List.map_map, List.map_map] at told left
  have serials : (table.listed answer).map Job.serial =
      ((table.recordAnswers (table.looks answer)).jobs.filter Job.isNews).map
        Job.serial ++
        ((table.recordAnswers (table.looks answer)).jobs.filter Job.isLive).map
          Job.serial := by
    rw [listed, List.map_append]
    exact congrArg₂ (· ++ ·) told left
  rw [serials, List.count_append, count_serial_filter consistent,
    count_serial_filter consistent]
  cases (table.recordAnswers (table.looks answer)).get? serial with
  | none => rfl
  | some job => exact job.timesListed_eq.symm

/-- No job is listed twice just when none has stopped since it was last
reported. -/
theorem nodup_listed_iff :
    ((table.listed answer).map Job.serial).Nodup ↔
      ∀ job ∈ (table.recordAnswers (table.looks answer)).jobs,
        job.state = .stopped → job.reported = .stopped := by
  have consistent := consistent_looks sound answer
  rw [List.nodup_iff_count_le_one]
  constructor
  · intro once job member
    have here := once job.serial
    rw [count_serial_listed sound, (mem_jobs_iff consistent).mp member] at here
    exact Job.timesListed_le_one_iff.mp here
  · intro told serial
    rw [count_serial_listed sound]
    cases found : (table.recordAnswers (table.looks answer)).get? serial with
    | none => exact Nat.zero_le 1
    | some job =>
        have keyed : job.serial = serial := consistent.keyed found
        exact Job.timesListed_le_one_iff.mpr
          (told job ((mem_jobs_iff consistent).mpr (keyed ▸ found)))

/-- Then only jobs of the background that are done stand before the table. -/
theorem notices_of_nodup (once : ((table.listed answer).map Job.serial).Nodup) :
    (table.reap (table.looks answer)).1.map Job.unmarked =
      ((table.recordAnswers (table.looks answer)).jobs.filter fun job =>
        job.state == .done && job.background).map fun job =>
          job.settled.unmarked := by
  have told := (nodup_listed_iff sound answer).mp once
  rw [(settles_looks sound answer).listed (consistent_looks sound answer).once]
  congr 1
  apply List.filter_congr
  intro job member
  rw [job.isNews_eq]
  cases state : job.state with
  | stopped => simp [told job member state]
  | done => simp
  | running => simp

end Listed

end JobTable

namespace Shell

open Activity

/-- The list has the jobs to tell of and then the jobs that are left, each part
in the order of the serials.  A job of the background that is done has one line,
in the first part, and a job that goes on or whose stop was reported has one in
the second part; but a job that has stopped since it was last reported has a
line in both.  So every job is listed once, with nothing but what is done in the
background before the table, exactly when no job has stopped anew. -/
theorem jobs_repeats_new_stops {session : Session}
    (reachable : session.jobs.Reachable) (answer : Pid → WaitAnswer) :
    let recorded := session.jobs.recordAnswers (session.jobs.looks answer)
    let notices := (session.jobs.reap (session.jobs.looks answer)).1
    let left := (session.jobs.reap (session.jobs.looks answer)).2.jobs
    (∀ out : Descriptor,
      withWaits answer ((Builtin.dispatch ["jobs"] out).run.run session) =
      listing out ((notices ++ left).map Job.display) >>= fun outcome =>
        pure (outcome.map fun _ => .ran 0,
          withLook session (session.jobs.looks answer))) ∧
    notices.map Job.unmarked =
      (recorded.jobs.filter Job.isNews).map (fun job => job.settled.unmarked) ∧
    left.map Job.unmarked =
      (recorded.jobs.filter Job.isLive).map (fun job => job.settled.unmarked) ∧
    (notices.map Job.serial).Pairwise (· < ·) ∧
    (left.map Job.serial).Pairwise (· < ·) ∧
    (∀ serial, ((notices ++ left).map Job.serial).count serial =
      ((recorded.get? serial).map Job.timesListed).getD 0) ∧
    (((notices ++ left).map Job.serial).Nodup ↔
      ∀ job ∈ recorded.jobs, job.state = .stopped → job.reported = .stopped) ∧
    (((notices ++ left).map Job.serial).Nodup →
      notices.map Job.unmarked = (recorded.jobs.filter fun job =>
        job.state == .done && job.background).map
          fun job => job.settled.unmarked) := by
  have sound := reachable.sound
  intro recorded notices left
  have settles := JobTable.settles_looks sound answer
  have consistent := JobTable.consistent_looks sound answer
  have consistentNext :
      (session.jobs.reap (session.jobs.looks answer)).2.Consistent :=
    sound.consistent.of_changes
      (JobTable.changes_reap session.jobs (session.jobs.looks answer))
  refine ⟨fun out => Stage.withWaits_dispatch_jobs answer out session,
    settles.listed consistent.once, JobTable.left_reap sound answer,
    (JobTable.reaps sound (session.jobs.looks answer)).inOrder, ?_,
    JobTable.count_serial_listed sound answer,
    JobTable.nodup_listed_iff sound answer,
    JobTable.notices_of_nodup sound answer⟩
  rw [JobTable.map_serial_jobs consistentNext]
  exact consistentNext.ordered

/-- One job that is done, one that is asleep, and one that is told to stop. -/
def threeAsleep : Session :=
  let first := (JobTable.empty.add 5 [5] "sleep 1" true).2
  let second := (first.add 6 [6] "sleep 5" true).2
  { Session.fresh 1 "/" .empty with
    jobs := (second.add 7 [7] "sleep 9" true).2 }

def stopsLast (pid : Pid) : WaitAnswer :=
  if pid = 5 then .changed pid (.exited 0)
  else if pid = 7 then .changed pid (.stopped .tstp)
  else .noChange

theorem reachable_threeAsleep : threeAsleep.jobs.Reachable :=
  ((Relation.ReflTransGen.single
    (.add 5 [5] "sleep 1" true (by decide) (by decide))).tail
    (.add 6 [6] "sleep 5" true (by decide) (by decide))).tail
    (.add 7 [7] "sleep 9" true (by decide) (by decide))

theorem jobs_repeats_new_stops_threeAsleep :
    threeAsleep.jobs.Reachable ∧
    (∀ serial,
      ((threeAsleep.jobs.listed stopsLast).map Job.serial).count serial =
      (((threeAsleep.jobs.recordAnswers (threeAsleep.jobs.looks stopsLast)).get?
        serial).map Job.timesListed).getD 0) ∧
    (threeAsleep.jobs.listed stopsLast).map
      (fun job => (job.serial, job.state)) =
      [(1, .done), (3, .stopped), (2, .running), (3, .stopped)] := by
  obtain ⟨_, _, _, _, _, counts, _⟩ :=
    jobs_repeats_new_stops reachable_threeAsleep stopsLast
  exact ⟨reachable_threeAsleep, counts, by decide⟩

/-- A job that has stopped anew is listed twice. -/
theorem not_jobs_listed_once :
    ¬∀ (session : Session) (answer : Pid → WaitAnswer), session.jobs.Reachable →
      (∀ pid ∈ session.jobs.registered, (answer pid).IsAbout pid) →
        ((session.jobs.listed answer).map Job.serial).Nodup := by
  intro once
  have twice := once threeAsleep stopsLast reachable_threeAsleep (by decide)
  exact absurd twice (by decide)

end Shell

end JobShell
