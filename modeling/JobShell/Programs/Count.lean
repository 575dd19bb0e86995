import JobShell.Programs.Options

/-!
# Counting lines, words and bytes

A word is what stands between blanks, provided that something of it can be seen.
-/

namespace JobShell.Programs.Count

def options : List KnownOption :=
  [⟨'c', "bytes", false⟩, ⟨'m', "chars", false⟩, ⟨'l', "lines", false⟩,
    ⟨'w', "words", false⟩, ⟨'L', "max-line-length", false⟩]

def isSpaceByte (byte : UInt8) : Bool := byte == 32 || (9 ≤ byte && byte ≤ 13)

/-- The number of words; `inside` says that the present one has been counted. -/
def countWords (inside : Bool) : List UInt8 → Nat
  | [] => 0
  | byte :: rest =>
    if isSpaceByte byte then countWords false rest
    else if inside || !isPrintByte byte then countWords inside rest
    else 1 + countWords true rest

/-- The greatest width of a line; `width` is that of the present one so far. -/
def greatestWidth (greatest width : Nat) : List UInt8 → Nat
  | [] => max greatest width
  | byte :: rest =>
    if byte == 10 || byte == 12 || byte == 13 then
      greatestWidth (max greatest width) 0 rest
    else if byte == 9 then greatestWidth greatest (width + 8 - width % 8) rest
    else greatestWidth greatest
      (if isPrintByte byte then width + 1 else width) rest

/-- What is counted in a source. -/
structure Counts where
  lines : Nat
  words : Nat
  bytes : Nat
  width : Nat
  deriving DecidableEq, Repr

namespace Counts

def zero : Counts := { lines := 0, words := 0, bytes := 0, width := 0 }

def ofBytes (bytes : ByteArray) : Counts :=
  { lines := bytes.toList.countP (· == 10)
    words := countWords false bytes.toList
    bytes := bytes.size
    width := greatestWidth 0 0 bytes.toList }

/-- The counts of two sources together. -/
def add (first second : Counts) : Counts :=
  { lines := first.lines + second.lines
    words := first.words + second.words
    bytes := first.bytes + second.bytes
    width := max first.width second.width }

/-- The counts that are asked for: lines, words and bytes unless options name
some.  Characters are bytes. -/
def wanted (counts : Counts) (given : Given) : List Nat :=
  if given.options.isEmpty then [counts.lines, counts.words, counts.bytes]
  else
    ([('l', counts.lines), ('w', counts.words), ('m', counts.bytes),
      ('c', counts.bytes), ('L', counts.width)].filter
      fun entry => given.has entry.1).map Prod.snd

end Counts

/-- A source; `size` is that of a regular file. -/
structure Source where
  name : String
  size : Option Nat
  counts : Counts
  deriving DecidableEq, Repr

def padLeft (width : Nat) (number : Nat) : String :=
  let digits := toString number
  String.ofList (List.replicate (width - digits.length) ' ') ++ digits

def lineOf (width : Nat) (numbers : List Nat) (name : Option String) : String :=
  " ".intercalate (numbers.map (padLeft width)) ++
    match name with
    | some name => " " ++ name
    | none => ""

/-- Counts in sources one after the other, and says whether all could be read.
One that can be opened but not read counts as empty. -/
def countAll (program : String) : List String → Activity (List Source × Bool)
  | [] => pure ([], true)
  | name :: rest => do
    match ← openNamed name with
    | .error text =>
      complain program (name ++ ": " ++ text)
      pure ((← countAll program rest).1, false)
    | .ok descriptor =>
      let size := (← Activity.fileStatus descriptor).map FileStatus.size
      match ← readOpened name descriptor with
      | .ok bytes =>
        let (others, fine) ← countAll program rest
        pure (⟨name, size, .ofBytes bytes⟩ :: others, fine)
      | .error text =>
        complain program (name ++ ": " ++ text)
        pure (⟨name, size, .zero⟩ :: (← countAll program rest).1, false)

/-- The width of numbers: enough for the sizes of all files, and at least seven
when one of the sources is no regular file. -/
def columnWidth (rows : List Source) : Nat :=
  let total := (rows.filterMap Source.size).foldl (· + ·) 0
  let least := if rows.any fun row => row.size.isNone then 7 else 1
  max (toString total).length least

/-- A number that stands alone is not padded. -/
def main (program : String) (arguments : List String) : Activity Int :=
  withOptions program options 1 arguments fun given => do
    let sources := sourcesOf given
    let (rows, fine) ← countAll program sources
    let total := (rows.map Source.counts).foldl Counts.add Counts.zero
    let single := sources.length ≤ 1 && (total.wanted given).length = 1
    let width := if single then 1 else columnWidth rows
    rows.forM fun row =>
      Activity.say .standardOutput
        (lineOf width (row.counts.wanted given)
          (if given.operands.isEmpty then none else some row.name))
    if sources.length > 1 then
      Activity.say .standardOutput
        (lineOf width (total.wanted given) (some "total"))
    pure (if fine then 0 else 1)

end JobShell.Programs.Count
