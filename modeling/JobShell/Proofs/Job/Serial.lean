import JobShell.Proofs.Job.Lookup

/-!
# Free serials

The search for a serial stops at the least one that no job has.  A table of `n`
jobs cannot have one under each of `n + 1` serials, so the search is long
enough.
-/

namespace JobShell.JobTable

theorem isSome_get?_of_lt_freeFrom {table : JobTable} {fuel serial key : Nat}
    (lower : serial ≤ key) (upper : key < table.freeFrom fuel serial) :
    (table.get? key).isSome := by
  induction fuel generalizing serial with
  | zero =>
      rw [freeFrom] at upper
      omega
  | succ fuel induction =>
      rw [freeFrom] at upper
      split at upper
      · next taken =>
          rcases Nat.eq_or_lt_of_le lower with same | later
          · exact same ▸ taken
          · exact induction later upper
      · omega

theorem get?_freeFrom (table : JobTable) (fuel serial : Nat) :
    table.get? (table.freeFrom fuel serial) = none ∨
      table.freeFrom fuel serial = serial + fuel := by
  induction fuel generalizing serial with
  | zero => exact .inr rfl
  | succ fuel induction =>
      rw [freeFrom]
      split
      · rcases induction (serial + 1) with free | exhausted
        · exact .inl free
        · exact .inr (by omega)
      · next free => exact .inl (by simpa using free)

/-- The next job gets a serial that no job has. -/
@[simp] theorem get?_nextSerial
    (table : JobTable) : table.get? table.nextSerial = none := by
  rcases table.get?_freeFrom table.size 1 with free | exhausted
  · exact free
  · rw [Option.eq_none_iff_forall_ne_some]
    intro job found
    -- all of `1, …, size + 1` would be serials of the table
    have taken : List.range' 1 (table.size + 1) ⊆ table.serials := by
      intro serial member
      apply isSome_get?_iff.mp
      rw [List.mem_range'_1] at member
      by_cases last : serial = table.nextSerial
      · rw [last, found]
        rfl
      · have before : serial < table.freeFrom table.size 1 := by
          unfold nextSerial at last
          omega
        exact isSome_get?_of_lt_freeFrom member.1 before
    have tooMany := (List.nodup_range' 1).length_le_of_subset taken
    rw [List.length_range', serials, List.length_map] at tooMany
    exact Nat.not_succ_le_self _ tooMany

end JobShell.JobTable
