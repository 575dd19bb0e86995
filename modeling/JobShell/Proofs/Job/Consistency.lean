import JobShell.Proofs.Job.Change
import JobShell.Proofs.Job.Live
import JobShell.Proofs.Job.Lookup
import JobShell.Proofs.Job.Serial

/-!
# The two maps agree

A table is consistent when its owners are exactly the processes of its jobs that
have not finished.  Numbers of processes are used again, so a finished process
of an old job and a running one of a new job may share theirs; consistency
speaks of live processes only, and is kept by every change of the table.
-/

namespace JobShell.JobTable

structure Consistent (table : JobTable) : Prop where
  ordered : table.serials.Pairwise (· < ·)
  keyed : ∀ {serial : Nat} {job : Job}, table.get? serial = some job →
    job.serial = serial
  distinct : ∀ {serial : Nat} {job : Job}, table.get? serial = some job →
    job.pids.Nodup
  registeredOnce : table.registered.Nodup
  owned : ∀ (pid : Pid) (serial : Nat),
    table.owner? pid = some serial ↔
      ∃ job, table.get? serial = some job ∧ pid ∈ job.livePids

theorem consistent_empty : Consistent empty where
  ordered := .nil
  keyed := nofun
  distinct := nofun
  registeredOnce := .nil
  owned := by simp [owner?, get?, empty]

/-- Jobs may change in place as long as serials, processes and what is alive of
them stay. -/
theorem Consistent.of_sameProcesses {table next : JobTable}
    (consistent : table.Consistent) (serials : next.serials = table.serials)
    (owners : next.owners = table.owners) {change : Nat → Job → Job}
    (changed : ∀ serial,
      next.get? serial = (table.get? serial).map (change serial))
    (serial : ∀ key job, (change key job).serial = job.serial)
    (pids : ∀ key job, (change key job).pids = job.pids)
    (livePids : ∀ key job, (change key job).livePids = job.livePids) :
    next.Consistent where
  ordered := serials ▸ consistent.ordered
  keyed := by
    intro key job found
    rw [changed] at found
    obtain ⟨old, foundOld, rfl⟩ := Option.map_eq_some_iff.mp found
    exact (serial key old).trans (consistent.keyed foundOld)
  distinct := by
    intro key job found
    rw [changed] at found
    obtain ⟨old, foundOld, rfl⟩ := Option.map_eq_some_iff.mp found
    exact (pids key old).symm ▸ consistent.distinct foundOld
  registeredOnce := by
    unfold registered
    exact owners ▸ consistent.registeredOnce
  owned := by
    intro pid key
    have before := consistent.owned pid key
    unfold owner? at before ⊢
    rw [owners, before, changed]
    cases table.get? key with
    | none => simp
    | some job => simp [livePids]

theorem Consistent.update {table : JobTable} (consistent : table.Consistent)
    (serial : Nat) {change : Job → Job}
    (adjusts : ∀ job : Job, job.Adjusts (change job)) :
    (table.update serial change).Consistent := by
  refine consistent.of_sameProcesses (serials_update table serial change) rfl
    (get?_update table serial change) ?_ ?_ ?_
  · intro key job
    split
    · exact (adjusts job).serial
    · rfl
  · intro key job
    split
    · exact (adjusts job).pids
    · rfl
  · intro key job
    split
    · exact (adjusts job).livePids
    · rfl

/-- The marks of a job are no part of its processes. -/
@[simp] theorem serial_remarked (serial : Nat) (job : Job) :
    (remarked serial job).serial = job.serial := by
  unfold remarked
  split
  · rfl
  · split <;> rfl

@[simp] theorem processes_remarked (serial : Nat) (job : Job) :
    (remarked serial job).processes = job.processes := by
  unfold remarked
  split
  · rfl
  · split <;> rfl

@[simp] theorem pids_remarked (serial : Nat) (job : Job) :
    (remarked serial job).pids = job.pids := by
  simp [Job.pids]

@[simp] theorem livePids_remarked (serial : Nat) (job : Job) :
    (remarked serial job).livePids = job.livePids := by
  simp [Job.livePids]

theorem Consistent.makeCurrent {table : JobTable}
    (consistent : table.Consistent)
    (serial : Nat) : (table.makeCurrent serial).Consistent :=
  consistent.of_sameProcesses (serials_makeCurrent table serial) rfl
    (get?_makeCurrent table serial)
    (fun _ => serial_remarked serial)
    (fun _ => pids_remarked serial) (fun _ => livePids_remarked serial)

theorem Consistent.strike {table : JobTable} (consistent : table.Consistent)
    {serial : Nat} {job : Job} (found : table.get? serial = some job) :
    (table.strike serial job).Consistent where
  ordered := consistent.ordered.sublist (List.filter_sublist.map Prod.fst)
  keyed := by
    intro key other foundOther
    rw [get?_strike] at foundOther
    split at foundOther
    · cases foundOther
    · exact consistent.keyed foundOther
  distinct := by
    intro key other foundOther
    rw [get?_strike] at foundOther
    split at foundOther
    · cases foundOther
    · exact consistent.distinct foundOther
  registeredOnce :=
    consistent.registeredOnce.sublist (List.filter_sublist.map Prod.fst)
  owned := by
    intro pid key
    rw [owner?_strike consistent.registeredOnce, Option.filter_eq_some_iff,
      get?_strike]
    have before := consistent.owned pid key
    by_cases same : key = serial
    · subst key
      simp only [beq_self_eq_true, Bool.and_true, Bool.not_eq_true', if_true]
      constructor
      · rintro ⟨owner, notOurs⟩
        -- what the job owns is among its processes, and these are all struck
        obtain ⟨known, foundKnown, live⟩ := before.mp owner
        cases found.symm.trans foundKnown
        have listed : job.pids.contains pid := by
          simpa using job.livePids_subset_pids live
        rw [listed] at notOurs
        cases notOurs
      · rintro ⟨_, impossible, _⟩
        cases impossible
    · simpa [same] using before

theorem Consistent.remove {table : JobTable} (consistent : table.Consistent)
    (serial : Nat) :
    (table.remove serial).2.Consistent := by
  cases found : table.get? serial with
  | none => simpa [JobTable.remove, found] using consistent
  | some job =>
      rcases remove_of_get? found with alone | ⟨next, _, passedOn⟩
      · rw [alone]
        exact consistent.strike found
      · rw [passedOn]
        exact (consistent.strike found).makeCurrent next.serial

theorem registered_record_sublist (table : JobTable) (pid : Pid)
    (state : ProcessState) :
    (table.record pid state).registered.Sublist table.registered := by
  unfold JobTable.record
  split
  · exact .refl _
  · split
    · exact List.filter_sublist.map Prod.fst
    · dsimp only
      split
      · exact List.filter_sublist.map Prod.fst
      · exact .refl _

theorem Consistent.record {table : JobTable} (consistent : table.Consistent)
    (pid : Pid) (state : ProcessState) :
    (table.record pid state).Consistent := by
  cases owner : table.owner? pid with
  | none => simpa [JobTable.record, owner] using consistent
  | some serial =>
      obtain ⟨job, found, live⟩ := (consistent.owned pid serial).mp owner
      have distinct := consistent.distinct found
      refine {
        ordered := serials_record table pid state ▸ consistent.ordered
        keyed := ?_
        distinct := ?_
        registeredOnce :=
          consistent.registeredOnce.sublist
            (registered_record_sublist table pid state)
        owned := ?_ }
      · intro key other foundOther
        rw [get?_record owner found] at foundOther
        obtain ⟨old, foundOld, rfl⟩ := Option.map_eq_some_iff.mp foundOther
        have serial := consistent.keyed foundOld
        split
        · exact serial
        · exact serial
      · intro key other foundOther
        rw [get?_record owner found] at foundOther
        obtain ⟨old, foundOld, rfl⟩ := Option.map_eq_some_iff.mp foundOther
        have distinct := consistent.distinct foundOld
        split
        · exact (old.pids_record pid state).symm ▸ distinct
        · exact distinct
      · intro other key
        rw [owner?_record owner found, get?_record owner found]
        have before := consistent.owned other key
        by_cases ours : key = serial
        · subst key
          have recorded :=
            Job.mem_livePids_record distinct
              (job.livePids_subset_pids live) state other
          simp only [found, Option.map_some, if_true, Option.some.injEq,
            exists_eq_left', recorded]
          simp only [found, Option.some.injEq, exists_eq_left'] at before
          by_cases same : other = pid
          · subst other
            cases finished : state.isFinished <;> simp [owner]
          · simpa [same] using before
        · have kept :
              (if state.isFinished ∧
                other = pid then none else table.owner? other) =
              some key ↔ table.owner? other = some key := by
            split
            · next both =>
                -- the process that finished has one owner, and that is another
                -- job
                have elsewhere : table.owner? other ≠ some key := by
                  rw [both.2, owner]
                  exact fun equality => ours (Option.some.inj equality).symm
                simp [elsewhere]
            · rfl
          simpa [kept, ours] using before

theorem mem_map_fst_place {serial : Nat} {job : Job}
    {entries : List (Nat × Job)} {key : Nat} :
    key ∈ (place serial job entries).map Prod.fst ↔
      key = serial ∨ key ∈ entries.map Prod.fst := by
  induction entries with
  | nil => simp [place]
  | cons entry entries induction =>
      obtain ⟨other, held⟩ := entry
      unfold place
      split
      · simp
      · split
        · next same => simp [same]
        · simp only [List.map_cons, List.mem_cons, induction, or_left_comm]

theorem pairwise_place {serial : Nat} {job : Job} {entries : List (Nat × Job)}
    (ordered : (entries.map Prod.fst).Pairwise (· < ·)) :
    ((place serial job entries).map Prod.fst).Pairwise (· < ·) := by
  induction entries with
  | nil => exact List.pairwise_singleton _ _
  | cons entry entries induction =>
      obtain ⟨other, held⟩ := entry
      rw [List.map_cons, List.pairwise_cons] at ordered
      unfold place
      split
      · next before =>
          refine List.pairwise_cons.mpr ⟨?_, List.pairwise_cons.mpr ordered⟩
          intro key member
          rcases List.mem_cons.mp member with rfl | later
          · exact before
          · exact Nat.lt_trans before (ordered.1 key later)
      · split
        · next same =>
            subst other
            exact List.pairwise_cons.mpr ordered
        · refine List.pairwise_cons.mpr ⟨?_, induction ordered.2⟩
          intro key member
          rcases mem_map_fst_place.mp member with rfl | later
          · omega
          · exact ordered.1 key later

theorem nodup_registered_own {table : JobTable} (once : table.registered.Nodup)
    (serial : Nat) (pid : Pid) : (table.own serial pid).registered.Nodup := by
  have kept : ((table.disown pid).owners.map Prod.fst).Nodup :=
    once.sublist (List.filter_sublist.map Prod.fst)
  have gone : pid ∉ (table.disown pid).owners.map Prod.fst := by
    simp [disown]
  rw [registered, own, List.map_append, List.nodup_append]
  refine ⟨kept, List.nodup_singleton pid, ?_⟩
  intro other member last listed same
  have equality : other = pid := same.trans (List.mem_singleton.mp listed)
  exact gone (equality ▸ member)

theorem nodup_registered_foldl_own (pids : List Pid) {table : JobTable}
    (once : table.registered.Nodup) (serial : Nat) :
    (pids.foldl (fun table pid => table.own serial pid)
      table).registered.Nodup := by
  induction pids generalizing table with
  | nil => exact once
  | cons pid pids induction =>
      exact induction (nodup_registered_own once serial pid)

/-- A new job gets a free serial, and processes that nobody owns. -/
theorem Consistent.add {table : JobTable} (consistent : table.Consistent)
    (group : Pid) {pids : List Pid} (command : String) (background : Bool)
    (distinct : pids.Nodup) (free : ∀ pid ∈ pids, table.owner? pid = none) :
    (table.add group pids command background).2.Consistent where
  ordered := by
    rw [JobTable.add, serials_makeCurrent, serials, entries_foldl_own]
    exact pairwise_place consistent.ordered
  keyed := by
    intro key job found
    rw [get?_add] at found
    split at found
    · next same =>
        cases found
        exact (serial_remarked _ _).trans same.symm
    · obtain ⟨old, foundOld, rfl⟩ := Option.map_eq_some_iff.mp found
      exact (serial_remarked _ _).trans (consistent.keyed foundOld)
  distinct := by
    intro key job found
    rw [get?_add] at found
    split at found
    · cases found
      rw [pids_remarked, Job.pids_launched]
      exact distinct
    · obtain ⟨old, foundOld, rfl⟩ := Option.map_eq_some_iff.mp found
      rw [pids_remarked]
      exact consistent.distinct foundOld
  registeredOnce :=
    nodup_registered_foldl_own pids consistent.registeredOnce table.nextSerial
  owned := by
    intro pid key
    rw [owner?_add, get?_add]
    have before := consistent.owned pid key
    by_cases new : key = table.nextSerial
    · subst key
      have notBefore : table.owner? pid ≠ some table.nextSerial := by
        intro owner
        obtain ⟨job, found, _⟩ := before.mp owner
        rw [get?_nextSerial] at found
        cases found
      by_cases listed : pid ∈ pids
      · simp [listed]
      · simp [listed, notBefore]
    · by_cases listed : pid ∈ pids
      · have notBefore : ¬∃ job,
            table.get? key = some job ∧ pid ∈ job.livePids := by
          rw [← before, free pid listed]
          simp
        simpa [listed, new, Ne.symm new] using notBefore
      · simpa [listed, new] using before

theorem Change.consistent {table next : JobTable} (change : Change table next)
    (consistent : table.Consistent) : next.Consistent := by
  cases change with
  | add group pids command background distinct free =>
      exact consistent.add group command background distinct free
  | remove serial => exact consistent.remove serial
  | record pid state => exact consistent.record pid state
  | adjust serial adjusts => exact consistent.update serial adjusts
  | makeCurrent _ => exact consistent.makeCurrent _

theorem Reachable.consistent {table : JobTable} (reachable : Reachable table) :
    table.Consistent :=
  reachable.invariant consistent_empty Change.consistent

theorem Consistent.get?_eq_some_iff {table : JobTable}
    (consistent : table.Consistent) {serial : Nat} {job : Job} :
    table.get? serial = some job ↔ (serial, job) ∈ table.entries :=
  lookup_eq_some_iff_mem (consistent.ordered.imp Nat.ne_of_lt)

/-- The owner of a process in a reachable table is the one job in which it is
alive. -/
theorem owners_agree_of_reachable {table : JobTable}
    (reachable : Reachable table) :
    (∀ (pid : Pid) (serial : Nat), table.owner? pid = some serial ↔
      ∃ job, table.get? serial = some job ∧ job.serial = serial ∧
        ∃ process ∈ job.processes,
          process.pid = pid ∧ process.state.isFinished = false) ∧
    (∀ pid : Pid, (∃ job ∈ table.jobs, pid ∈ job.livePids) →
      ∃! job, job ∈ table.jobs ∧ pid ∈ job.livePids) ∧
    (∀ (pid : Pid) (serial : Nat), table.owner? pid = some serial →
      ∃ job, table.get? serial = some job) ∧
    (∀ entry ∈ table.entries, entry.2.serial = entry.1) := by
  have consistent := reachable.consistent
  refine ⟨fun pid serial => ?_, fun pid alive => ?_, fun pid serial owner => ?_,
    fun entry member => ?_⟩
  · rw [consistent.owned]
    constructor
    · rintro ⟨job, found, live⟩
      exact ⟨job, found, consistent.keyed found, Job.mem_livePids.mp live⟩
    · rintro ⟨job, found, _, live⟩
      exact ⟨job, found, Job.mem_livePids.mpr live⟩
  · obtain ⟨job, listed, live⟩ := alive
    refine ⟨job, ⟨listed, live⟩, ?_⟩
    rintro other ⟨otherListed, otherLive⟩
    obtain ⟨⟨serial, _⟩, member, rfl⟩ := List.mem_map.mp listed
    obtain ⟨⟨otherSerial, _⟩, otherMember, rfl⟩ := List.mem_map.mp otherListed
    have found := consistent.get?_eq_some_iff.mpr member
    have otherFound := consistent.get?_eq_some_iff.mpr otherMember
    have owner := (consistent.owned pid serial).mpr ⟨_, found, live⟩
    have otherOwner :=
      (consistent.owned pid otherSerial).mpr ⟨_, otherFound, otherLive⟩
    cases owner.symm.trans otherOwner
    exact Option.some.inj (otherFound.symm.trans found)
  · obtain ⟨job, found, _⟩ := (consistent.owned pid serial).mp owner
    exact ⟨job, found⟩
  · exact consistent.keyed (consistent.get?_eq_some_iff.mpr member)

/-- A job keeps a process that has finished; its number is running again in a
newer job. -/
def reusedNumber : JobTable :=
  (((empty.add 100 [100, 101] "a | b" true).2.record 101 (.exited 0)).add 101
    [101] "c" true).2

theorem owners_agree_of_reusedNumber :
    Reachable reusedNumber ∧ (∀ job ∈ reusedNumber.jobs, 101 ∈ job.pids) ∧
      ∃! job, job ∈ reusedNumber.jobs ∧ 101 ∈ job.livePids := by
  have reachable : Reachable reusedNumber :=
    ((Relation.ReflTransGen.single
      (.add 100 [100, 101] "a | b" true (by decide) (by decide))).tail
      (.record 101 (.exited 0))).tail
      (.add 101 [101] "c" true (by decide) (by decide))
  have alive : ∃ job ∈ reusedNumber.jobs, 101 ∈ job.livePids := by decide
  exact ⟨reachable, by decide,
    (owners_agree_of_reachable reachable).2.1 101 alive⟩

end JobShell.JobTable
