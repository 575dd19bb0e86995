/-!
# Blank characters

White space in the sense of the Unicode property `White_Space`, and the
trimming of texts at their blank ends.
-/

namespace JobShell

/-- The characters with the Unicode property `White_Space`. -/
def isBlank (c : Char) : Bool :=
  let n := c.toNat
  (0x09 ≤ n && n ≤ 0x0D) || n == 0x20 || n == 0x85 || n == 0xA0 ||
    n == 0x1680 ||
    (0x2000 ≤ n && n ≤ 0x200A) || n == 0x2028 || n == 0x2029 || n == 0x202F ||
    n == 0x205F || n == 0x3000

namespace Text

/-- The text without the blank characters at its start. -/
def trimStart (text : List Char) : List Char :=
  text.dropWhile isBlank

/-- The text without the blank characters at its end. -/
def trimEnd (text : List Char) : List Char :=
  (text.reverse.dropWhile isBlank).reverse

/-- Whether nothing but blank characters is in the text. -/
def allBlank (text : String) : Bool :=
  text.toList.all isBlank

theorem allBlank_iff (text : String) :
    allBlank text = true ↔ ∀ c ∈ text.toList, isBlank c = true := by
  simp [allBlank]

end Text

end JobShell
