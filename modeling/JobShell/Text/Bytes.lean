/-!
# Byte positions in a text

Positions count bytes of the UTF-8 form.  A position is good for cutting only
where a character begins or the text ends.
-/

namespace JobShell.Text

/-- Bytes of the UTF-8 form. -/
def byteLength : List Char → Nat
  | [] => 0
  | c :: rest => c.utf8Size + byteLength rest

theorem byteLength_append (front rest : List Char) :
    byteLength (front ++ rest) = byteLength front + byteLength rest := by
  induction front with
  | nil => simp [byteLength]
  | cons c front induction => simp [byteLength, induction, Nat.add_assoc]

/-- The two parts of a text at a byte position; `none` inside a character and
beyond the end. -/
def cutAt? : List Char → Nat → Option (List Char × List Char)
  | text, 0 => some ([], text)
  | [], _ + 1 => none
  | c :: rest, position =>
    if c.utf8Size ≤ position then
      (cutAt? rest (position - c.utf8Size)).map fun parts =>
        (c :: parts.1, parts.2)
    else
      none

theorem cutAt?_byteLength (front rest : List Char) :
    cutAt? (front ++ rest) (byteLength front) = some (front, rest) := by
  induction front with
  | nil => cases rest <;> rfl
  | cons c front induction =>
    have positive := c.utf8Size_pos
    have shape : byteLength (c :: front) =
        (byteLength (c :: front) - 1) + 1 := by
      simp only [byteLength]; omega
    rw [List.cons_append, shape, cutAt?, ← shape]
    · simp [byteLength, induction]
    · simp

end JobShell.Text
