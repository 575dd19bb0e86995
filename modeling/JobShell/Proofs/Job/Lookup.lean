import JobShell.Job.Table
import Mathlib.Data.List.Nodup

/-!
# The two maps of the job table

What each change of the table does to the jobs under the serials and to the
serials under the processes.  Later proofs go through these equations and leave
the lists that hold the two maps alone.
-/

namespace JobShell

section AssociationLists

variable {κ β γ : Type} [BEq κ] [LawfulBEq κ]

theorem lookup_filter_key (keep : κ → Bool) (entries : List (κ × β)) (key : κ) :
    (entries.filter fun entry => keep entry.1).lookup key =
      if keep key then entries.lookup key else none := by
  induction entries with
  | nil => simp
  | cons entry entries induction =>
      obtain ⟨other, value⟩ := entry
      by_cases same : key = other
      · subst other
        cases kept : keep key <;> simp [kept, induction]
      · have different : (key == other) = false := by simpa using same
        cases kept : keep other <;>
          simp [kept, List.lookup_cons, different, induction]

/-- Where every key stands once, a filter may look at the values as well. -/
theorem lookup_filter_of_nodup (keep : κ × β → Bool) {entries : List (κ × β)}
    (unique : (entries.map Prod.fst).Nodup) (key : κ) :
    (entries.filter keep).lookup key =
      (entries.lookup key).filter fun value => keep (key, value) := by
  induction entries with
  | nil => simp
  | cons entry entries induction =>
      obtain ⟨other, value⟩ := entry
      rw [List.map_cons, List.nodup_cons] at unique
      have rest := induction unique.2
      by_cases same : key = other
      · subst other
        have absent : entries.lookup key = none := by
          rw [List.lookup_eq_none_iff]
          intro entry member
          have different : key ≠ entry.1 := by
            intro equality
            exact unique.1 (List.mem_map.mpr ⟨entry, member, equality.symm⟩)
          simpa using different
        cases kept : keep (key, value) <;>
          simp [kept, rest, absent, Option.filter]
      · have different : (key == other) = false := by simpa using same
        cases kept : keep (other, value) <;>
          simp [kept, List.lookup_cons, different, rest]

theorem lookup_eq_some_iff_mem {entries : List (κ × β)}
    (unique : (entries.map Prod.fst).Nodup) {key : κ} {value : β} :
    entries.lookup key = some value ↔ (key, value) ∈ entries := by
  induction entries with
  | nil => simp
  | cons entry entries induction =>
      obtain ⟨other, held⟩ := entry
      rw [List.map_cons, List.nodup_cons] at unique
      by_cases same : key = other
      · subst other
        have notLater : (key, value) ∉ entries := fun member =>
          unique.1 (List.mem_map.mpr ⟨(key, value), member, rfl⟩)
        simp [notLater, eq_comm]
      · have different : (key == other) = false := by simpa using same
        simp [List.lookup_cons, different, same, induction unique.2]

theorem lookup_map_value (change : κ → β → γ) (entries : List (κ × β))
    (key : κ) :
    (entries.map fun entry => (entry.1, change entry.1 entry.2)).lookup key =
      (entries.lookup key).map (change key) := by
  induction entries with
  | nil => rfl
  | cons entry entries induction =>
      obtain ⟨other, value⟩ := entry
      by_cases same : key = other
      · subst other
        simp
      · have different : (key == other) = false := by simpa using same
        simp [List.lookup_cons, different, induction]

end AssociationLists

namespace JobTable

@[simp] theorem get?_update (table : JobTable) (serial : Nat)
    (change : Job → Job) (key : Nat) :
    (table.update serial change).get? key =
      (table.get? key).map fun job =>
        if key = serial then change job else job :=
  lookup_map_value (fun key job => if key = serial then change job else job)
    table.entries key

@[simp] theorem get?_makeCurrent (table : JobTable) (serial key : Nat) :
    (table.makeCurrent serial).get? key =
      (table.get? key).map (remarked serial) :=
  lookup_map_value (fun _ job => remarked serial job) table.entries key

@[simp] theorem owner?_disown (table : JobTable) (pid other : Pid) :
    (table.disown pid).owner? other = if other = pid then none
      else table.owner? other := by
  unfold owner? disown
  rw [lookup_filter_key (fun key => key != pid)]
  by_cases same : other = pid <;> simp [same]

@[simp] theorem owner?_own (table : JobTable) (serial : Nat) (pid other : Pid) :
    (table.own serial pid).owner? other =
      if other = pid then some serial else table.owner? other := by
  have before := owner?_disown table pid other
  unfold owner? at before
  unfold owner? own
  rw [List.lookup_append, before]
  by_cases same : other = pid
  · simp [same]
  · have different : (other == pid) = false := by simpa using same
    simp [same, List.lookup_cons, different]

@[simp] theorem owner?_foldl_own (pids : List Pid) (table : JobTable)
    (serial : Nat) (other : Pid) :
    (pids.foldl (fun table pid => table.own serial pid) table).owner? other =
      if other ∈ pids then some serial else table.owner? other := by
  induction pids generalizing table with
  | nil => simp
  | cons pid pids induction =>
      rw [List.foldl_cons, induction, owner?_own]
      by_cases later : other ∈ pids
      · simp [later]
      · by_cases same : other = pid <;> simp [later, same]

@[simp] theorem entries_foldl_own (pids : List Pid) (table : JobTable)
    (serial : Nat) :
    (pids.foldl (fun table pid => table.own serial pid) table).entries =
      table.entries := by
  induction pids generalizing table with
  | nil => rfl
  | cons pid pids induction =>
      rw [List.foldl_cons, induction]
      rfl

theorem lookup_place (serial : Nat) (job : Job) (entries : List (Nat × Job))
    (key : Nat) :
    (place serial job entries).lookup key =
      if key = serial then some job else entries.lookup key := by
  induction entries with
  | nil =>
      by_cases same : key = serial <;> simp [place, same]
  | cons entry entries induction =>
      obtain ⟨other, held⟩ := entry
      unfold place
      by_cases same : key = serial
      · subst key
        split
        · simp
        · split
          · simp
          · next notSame =>
              have different : (serial == other) = false := by
                simpa using notSame
              simp [List.lookup_cons, different, induction]
      · have different : (key == serial) = false := by simpa using same
        split
        · simp [List.lookup_cons, different]
        · split
          · next sameAsOther =>
              subst other
              simp [List.lookup_cons, different]
          · simp [List.lookup_cons, induction, same]

theorem get?_add (table : JobTable) (group : Pid) (pids : List Pid)
    (command : String) (background : Bool) (key : Nat) :
    (table.add group pids command background).2.get? key =
      if key = table.nextSerial then
        some (remarked table.nextSerial
          (Job.launched group table.nextSerial pids command background))
      else (table.get? key).map (remarked table.nextSerial) := by
  simp only [add, get?_makeCurrent]
  simp only [get?, lookup_place, entries_foldl_own]
  split <;> rfl

@[simp] theorem owner?_add (table : JobTable) (group : Pid) (pids : List Pid)
    (command : String) (background : Bool) (pid : Pid) :
    (table.add group pids command background).2.owner? pid =
      if pid ∈ pids then some table.nextSerial else table.owner? pid :=
  owner?_foldl_own pids table table.nextSerial pid

@[simp] theorem get?_strike (table : JobTable) (serial : Nat) (job : Job)
    (key : Nat) :
    (table.strike serial job).get? key = if key = serial then none
      else table.get? key := by
  unfold get? strike
  rw [lookup_filter_key (fun key => key != serial)]
  by_cases same : key = serial <;> simp [same]

theorem owner?_strike {table : JobTable} (unique : table.registered.Nodup)
    (serial : Nat) (job : Job) (pid : Pid) :
    (table.strike serial job).owner? pid =
      (table.owner? pid).filter fun owner =>
        !(job.pids.contains pid && owner == serial) :=
  lookup_filter_of_nodup (fun entry =>
    !(job.pids.contains entry.1 && entry.2 == serial)) unique pid

theorem mem_of_successor? {jobs : List Job} {next : Job}
    (promoted : successor? jobs = some next) : next ∈ jobs := by
  unfold successor? at promoted
  rcases Option.or_eq_some_iff.mp promoted with previous | ⟨_, last⟩
  · exact List.mem_of_find?_eq_some previous
  · exact List.mem_of_getLast? last

/-- A job leaves the table alone, or the mark of the current job goes on to
another one. -/
theorem remove_of_get? {table : JobTable} {serial : Nat} {job : Job}
    (found : table.get? serial = some job) :
    table.remove serial = (some job, table.strike serial job) ∨
      ∃ next ∈ (table.strike serial job).jobs,
        table.remove serial =
          (some job, (table.strike serial job).makeCurrent next.serial) := by
  simp only [remove, found]
  split
  · exact .inl rfl
  · next next promoted =>
      refine .inr ⟨next, ?_, rfl⟩
      split at promoted
      · exact mem_of_successor? promoted
      · cases promoted

section Record

variable {table : JobTable} {pid : Pid} {serial : Nat} {job : Job}

/-- The new state goes to the owner, who loses a process that has finished. -/
theorem record_of_owner? (owner : table.owner? pid = some serial)
    (found : table.get? serial = some job) (state : ProcessState) :
    table.record pid state =
      if state.isFinished then
        (table.update serial fun job => job.record pid state).disown pid
      else table.update serial fun job => job.record pid state := by
  simp [record, owner, found]

theorem get?_record (owner : table.owner? pid = some serial)
    (found : table.get? serial = some job) (state : ProcessState) (key : Nat) :
    (table.record pid state).get? key =
      (table.get? key).map fun other =>
        if key = serial then other.record pid state else other := by
  rw [record_of_owner? owner found, ← get?_update]
  split <;> rfl

theorem owner?_record (owner : table.owner? pid = some serial)
    (found : table.get? serial = some job) (state : ProcessState)
    (other : Pid) :
    (table.record pid state).owner? other =
      if state.isFinished ∧ other = pid then none else table.owner? other := by
  rw [record_of_owner? owner found]
  split
  · next finished =>
      rw [owner?_disown]
      simp only [finished, true_and]
      rfl
  · next live =>
      rw [if_neg fun both => live both.1]
      rfl

end Record

/-- Noting a state changes at most the one job that has the process. -/
theorem get?_record_cases (table : JobTable) (pid : Pid) (state : ProcessState)
    (key : Nat) :
    (table.record pid state).get? key = table.get? key ∨
      (table.record pid state).get? key =
        (table.get? key).map (·.record pid state) := by
  cases owner : table.owner? pid with
  | none => exact .inl (by simp [record, owner])
  | some serial =>
      cases found : table.get? serial with
      | none =>
          left
          have kept : table.record pid state = table.disown pid := by
            simp [record, owner, found]
          rw [kept]
          rfl
      | some job =>
          rw [get?_record owner found]
          by_cases same : key = serial
          · exact .inr (by simp [same])
          · exact .inl (by simp [same])

theorem isSome_get?_iff {table : JobTable} {serial : Nat} :
    (table.get? serial).isSome ↔ serial ∈ table.serials := by
  unfold get? serials
  rw [List.lookup_isSome_iff, List.mem_map]
  simp only [beq_iff_eq]
  constructor
  · rintro ⟨entry, member, same⟩
    exact ⟨entry, member, same.symm⟩
  · rintro ⟨entry, member, same⟩
    exact ⟨entry, member, same.symm⟩

theorem get?_eq_none_iff {table : JobTable} {serial : Nat} :
    table.get? serial = none ↔ serial ∉ table.serials := by
  rw [← isSome_get?_iff, Option.not_isSome_iff_eq_none]

@[simp] theorem serials_update (table : JobTable) (serial : Nat)
    (change : Job → Job) :
    (table.update serial change).serials = table.serials := by
  simp [serials, update, Function.comp_def]

@[simp] theorem serials_makeCurrent (table : JobTable) (serial : Nat) :
    (table.makeCurrent serial).serials = table.serials := by
  simp [serials, makeCurrent, Function.comp_def]

@[simp] theorem serials_disown (table : JobTable) (pid : Pid) :
    (table.disown pid).serials = table.serials :=
  rfl

@[simp] theorem serials_record (table : JobTable) (pid : Pid)
    (state : ProcessState) :
    (table.record pid state).serials = table.serials := by
  unfold JobTable.record
  split
  · rfl
  · split
    · rfl
    · dsimp only
      split
      · exact (serials_disown _ pid).trans (serials_update table _ _)
      · exact serials_update table _ _

end JobTable

end JobShell
