/-!
# Numerals of machine words
-/

namespace JobShell.Text

def digitValue? (c : Char) : Option Nat :=
  if c.isDigit then some (c.toNat - 48) else none

/-- The value of a non-empty row of ASCII digits. -/
def digitsValue? : List Char → Option Nat
  | [] => none
  | digits => digits.foldl
      (fun value? c => do
        let value ← value?
        let digit ← digitValue? c
        pure (10 * value + digit))
      (some 0)

/-- Reads a numeral below `2 ^ 64`: ASCII digits, with at most one plus sign in
front of them. -/
def parseWord64? (text : String) : Option Nat := do
  let digits := match text.toList with
    | '+' :: digits => digits
    | digits => digits
  let value ← digitsValue? digits
  if value < Nat.pow 2 64 then some value else none

end JobShell.Text
