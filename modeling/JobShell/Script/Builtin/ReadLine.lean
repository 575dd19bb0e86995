import JobShell.Script.Builtin.Basic

/-!
# Reading lines

The command that reads a line into variables.
-/

namespace JobShell.Script.Builtin

open Run

/-- Reads the bytes of one line; says whether a line feed ends them.  Unless the
line is raw, a backslash takes the character behind it, and joins lines. -/
def readLine (raw : Bool) :
    (fuel : Nat) → List (UInt8 × Bool) → Run (List (UInt8 × Bool) × Bool)
  | 0, line => pure (line.reverse, false)
  | fuel + 1, line => do
    match ← Activity.read .standardInput 1 with
    | .error _ => pure (line.reverse, false)
    | .ok bytes =>
      match bytes.toList with
      | [] => pure (line.reverse, false)
      | byte :: _ =>
        if byte = 10 then
          match raw, line with
          | false, (92, false) :: line => readLine raw fuel line
          | _, line => pure (line.reverse, true)
        else
          match raw, line with
          | false, (92, false) :: line =>
            readLine raw fuel ((byte, true) :: line)
          | _, line => readLine raw fuel ((byte, false) :: line)

/-- The characters of a line that has been read, as glyphs. -/
def lineGlyphs (line : List (UInt8 × Bool)) : List Glyph :=
  let text := (String.fromUTF8? ⟨(line.map Prod.fst).toArray⟩).getD
    (String.ofList (line.map fun entry => Char.ofNat entry.1.toNat))
  let marks := line.filter fun entry => entry.1 < 0x80 || 0xC0 ≤ entry.1
  (text.toList.zip marks).map fun (c, entry) => if entry.2 then .quoted c
    else .produced c

/-- Gives the fields of a line to variables; the last one gets all that is
left. -/
def assignFields (separators : List Char) : List String → List Glyph → Run Unit
  | [], _ => pure ()
  | [name], glyphs =>
    let trimmed :=
      glyphs.reverse.dropWhile (Expansion.isSeparator separators true)
    let whole := trimmed.reverse
    let value := match Expansion.split separators (whole.length + 1) whole with
      | [only] => Glyph.text only
      | _ => Glyph.text whole
    assign name value
  | name :: rest, glyphs => do
    let isAny (glyph : Glyph) : Bool :=
      Expansion.isSeparator separators true glyph ||
      Expansion.isSeparator separators false glyph
    let field := glyphs.takeWhile fun glyph => !isAny glyph
    assign name (Glyph.text field)
    assignFields separators rest
      (Expansion.behindDelimiter separators (glyphs.drop field.length))

def read (arguments : List String) : Run Int := do
  let (flags, names) ← takeFlags ['r'] ['p'] arguments
  let raw := (flags.lookup 'r').isSome
  if names.isEmpty then fail "arg count"
  else
    let (line, complete) ← readLine raw Activity.pieceLimit []
    let separators := (← get).separators
    let glyphs :=
      (lineGlyphs line).dropWhile (Expansion.isSeparator separators true)
    assignFields separators names glyphs
    pure (if complete then 0 else 1)

end JobShell.Script.Builtin
