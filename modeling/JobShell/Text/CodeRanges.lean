/-!
# Ranges of code points

Classes of characters are unions of ranges.
-/

namespace JobShell.Text

/-- Ranges of code points, each with its first and its last one. -/
abbrev CodeRanges := Array (Nat × Nat)

namespace CodeRanges

def contains (ranges : CodeRanges) (c : Char) : Bool :=
  ranges.any fun range => range.1 ≤ c.toNat && c.toNat ≤ range.2

theorem contains_iff (ranges : CodeRanges) (c : Char) :
    ranges.contains c = true ↔
      ∃ range ∈ ranges, range.1 ≤ c.toNat ∧ c.toNat ≤ range.2 := by
  rw [contains, Array.any_eq_true']
  simp

end CodeRanges

end JobShell.Text
