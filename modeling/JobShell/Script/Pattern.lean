/-!
# Patterns

Patterns for texts: `*` stands for any text, `?` for any character, and brackets
hold a class of characters.
-/

namespace JobShell.Script

inductive PatternItem where
  | one (c : Char)
  | any
  | many
  | oneOf (negated : Bool) (ranges : List (Char × Char))
  deriving DecidableEq, Repr

abbrev Pattern := List PatternItem

/-- A character of an expanded word. -/
inductive Glyph where
  /-- From the script itself. -/
  | literal (c : Char)
  | quoted (c : Char)
  /-- From an expansion that is not quoted. -/
  | produced (c : Char)
  /-- Marks quotes, even around nothing. -/
  | mark
  /-- Ends a field. -/
  | cut
  deriving DecidableEq, Repr

namespace Glyph

def char? : Glyph → Option Char
  | literal c | quoted c | produced c => some c
  | mark | cut => none

/-- The character of a glyph that may mean something in a pattern. -/
def active? : Glyph → Option Char
  | literal c | produced c => some c
  | _ => none

def text (glyphs : List Glyph) : String :=
  String.ofList (glyphs.filterMap char?)

end Glyph

namespace Pattern

/-- The ranges of a class, from the text between its brackets. -/
def ranges : List Char → List (Char × Char)
  | first :: '-' :: last :: rest => (first, last) :: ranges rest
  | c :: rest => (c, c) :: ranges rest
  | [] => []

/-- The class at the start of some glyphs, behind its opening bracket, and what
is behind it.  A closing bracket in the first place is a member. -/
def class? (glyphs : List Glyph) : Option (PatternItem × List Glyph) :=
  let (negated, glyphs) := match glyphs with
    | g :: rest => if g.active? = some '!' then (true, rest)
        else (false, g :: rest)
    | [] => (false, [])
  let start := glyphs.take 1
  let others := glyphs.drop 1
  let inside := others.takeWhile fun g => g.active? != some ']'
  match others.drop inside.length with
  | [] => none
  | _ :: rest =>
    some (.oneOf negated (ranges ((start ++ inside).filterMap Glyph.char?)),
      rest)

/-- The pattern that glyphs make. -/
def ofGlyphs : (fuel : Nat) → List Glyph → Pattern
  | 0, _ => []
  | _, [] => []
  | fuel + 1, g :: rest =>
    match g.active? with
    | some '*' => .many :: ofGlyphs fuel rest
    | some '?' => .any :: ofGlyphs fuel rest
    | some '[' =>
      match class? rest with
      | some (item, rest) => item :: ofGlyphs fuel rest
      | none => .one '[' :: ofGlyphs fuel rest
    | _ =>
      match g.char? with
      | some c => .one c :: ofGlyphs fuel rest
      | none => ofGlyphs fuel rest

def read (glyphs : List Glyph) : Pattern := ofGlyphs (glyphs.length + 1) glyphs

def isPlain (pattern : Pattern) : Bool :=
  pattern.all fun item =>
    match item with
    | .one _ => true
    | _ => false

def admits (c : Char) : PatternItem → Bool
  | .one d => c == d
  | .any | .many => true
  | .oneOf negated ranges =>
    (ranges.any fun range => range.1 ≤ c && c ≤ range.2) != negated

/-- Whether a whole text fits a pattern. -/
def fits (pattern : Pattern) (text : List Char) : Bool :=
  match pattern, text with
  | [], text => text.isEmpty
  | .many :: rest, [] => fits rest []
  | .many :: rest, c :: text =>
    fits rest (c :: text) || fits (.many :: rest) text
  | _ :: _, [] => false
  | item :: rest, c :: text => admits c item && fits rest text
termination_by pattern.length + text.length

/-- The text without the part at its start that fits, the longest or the
shortest one. -/
def withoutStart (pattern : Pattern) (longest : Bool)
    (text : List Char) : List Char :=
  let lengths := List.range (text.length + 1)
  let order := if longest then lengths.reverse else lengths
  match order.find? fun length => fits pattern (text.take length) with
  | some length => text.drop length
  | none => text

/-- The text without the part at its end that fits, the longest or the shortest
one. -/
def withoutEnd (pattern : Pattern) (longest : Bool)
    (text : List Char) : List Char :=
  let lengths := List.range (text.length + 1)
  let order := if longest then lengths else lengths.reverse
  match order.find? fun length => fits pattern (text.drop length) with
  | some length => text.take length
  | none => text

end Pattern

end JobShell.Script
