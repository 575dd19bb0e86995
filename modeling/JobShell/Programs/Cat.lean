import JobShell.Programs.Options

/-!
# Copying files one after the other

With options, lines are numbered and what cannot be seen is made visible.
-/

namespace JobShell.Programs.Cat

def options : List KnownOption :=
  [⟨'b', "number-nonblank", false⟩, ⟨'n', "number", false⟩,
    ⟨'s', "squeeze-blank", false⟩, ⟨'v', "show-nonprinting", false⟩,
    ⟨'E', "show-ends", false⟩, ⟨'T', "show-tabs", false⟩,
    ⟨'A', "show-all", false⟩, ⟨'e', "", false⟩, ⟨'t', "", false⟩,
    ⟨'u', "", false⟩]

/-- How copying a file has ended. -/
inductive Copied where
  | fully
  | unreadable (errno : Errno)
  | unwritable (errno : Errno)
  deriving DecidableEq, Repr

/-- Copies the rest of a file to the output, piece by piece. -/
def copy (descriptor : Descriptor) : (pieces : Nat) → Activity Copied
  | 0 => pure .fully
  | pieces + 1 => do
    match ← Activity.read descriptor Activity.pieceSize with
    | .error errno => pure (.unreadable errno)
    | .ok piece =>
      if piece.isEmpty then pure .fully
      else
        match ← Activity.write .standardOutput piece with
        | .ok () => copy descriptor pieces
        | .error errno => pure (.unwritable errno)

/-- What is shown of a text. -/
structure Style where
  numbers : Bool
  /-- Blank lines get no numbers. -/
  spares : Bool
  squeezes : Bool
  ends : Bool
  tabs : Bool
  hidden : Bool
  deriving DecidableEq, Repr

namespace Style

def of (given : Given) : Style :=
  { numbers := given.has 'n' || given.has 'b'
    spares := given.has 'b'
    squeezes := given.has 's'
    ends := given.has 'E' || given.has 'A' || given.has 'e'
    tabs := given.has 'T' || given.has 'A' || given.has 't'
    hidden := given.has 'v' || given.has 'A' || given.has 'e' || given.has 't' }

def isPlain (style : Style) : Bool :=
  !(style.numbers || style.squeezes || style.ends || style.tabs || style.hidden)

end Style

/-- Where a text stands between files: the number of the line before, whether a
line has begun, and whether the line before was blank. -/
structure Progress where
  number : Nat
  inLine : Bool
  afterBlank : Bool
  deriving DecidableEq, Repr

/-- What a byte of the lower half looks like. -/
def shownLow (byte : UInt8) : List UInt8 :=
  if byte == 127 then [94, 63]
  else if byte < 32 then [94, byte + 64] else [byte]

/-- What a byte looks like that is no line feed. -/
def shown (style : Style) (byte : UInt8) : List UInt8 :=
  if byte == 9 then (if style.tabs then [94, 73] else [9])
  else if !style.hidden then [byte]
  else if 128 ≤ byte then [77, 45] ++ shownLow (byte - 128)
  else shownLow byte

/-- The number in front of a line. -/
def numberOf (number : Nat) : List UInt8 :=
  let digits := toString number
  (String.ofList (List.replicate (6 - digits.length) ' ') ++ digits ++
    "\t").toUTF8.toList

/-- The text of a line; a carriage return at the very end is seen when ends
are. -/
def lineOf (style : Style) (line : List UInt8) (ended : Bool) : List UInt8 :=
  let body := if style.ends && ended && line.getLast? == some 13 then
      line.dropLast.flatMap (shown style) ++ [94, 77]
    else line.flatMap (shown style)
  body ++ if ended then (if style.ends then [36, 10] else [10]) else []

/-- What is shown of some bytes. -/
def render (style : Style) :
    (fuel : Nat) → Progress → List UInt8 → List UInt8 × Progress
  | 0, progress, _ => ([], progress)
  | _, progress, [] => ([], progress)
  | fuel + 1, progress, bytes =>
    let line := bytes.takeWhile (· != 10)
    let rest := bytes.drop line.length
    let ended := !rest.isEmpty
    let blank := line.isEmpty && !progress.inLine
    if blank && style.squeezes && progress.afterBlank then
      render style fuel progress (rest.drop 1)
    else
      let numbered :=
        style.numbers && !progress.inLine && !(blank && style.spares)
      let number := if numbered then progress.number + 1 else progress.number
      let front := if numbered then numberOf number else []
      let (others, last) :=
        render style fuel { number, inLine := !ended,
                            afterBlank := blank } (rest.drop 1)
      (front ++ lineOf style line ended ++ others, last)

/-- Whether copying would only make a file longer by what it holds. -/
def copiesToItself (source target : Option FileStatus) : Bool :=
  match source, target with
  | some source, some target =>
    source.number == target.number && source.offset < source.size
  | _, _ => false

/-- Shows the rest of a file. -/
def show_ (style : Style) (progress : Progress) (descriptor : Descriptor) :
    Activity (Copied × Progress) := do
  if style.isPlain then pure (← copy descriptor Activity.pieceLimit, progress)
  else
    match ← Activity.readAll descriptor with
    | .error errno => pure (.unreadable errno, progress)
    | .ok bytes =>
      let (output, progress) :=
        render style (bytes.size + 1) progress bytes.toList
      match ← Activity.write .standardOutput ⟨output.toArray⟩ with
      | .ok () => pure (.fully, progress)
      | .error errno => pure (.unwritable errno, progress)

/-- Copies one file after the other. -/
def copyAll (program : String) (style : Style) (status : Int)
    (progress : Progress) :
    List String → Activity Int
  | [] => pure status
  | name :: rest => do
    match ← openNamed name with
    | .error text =>
      complain program (name ++ ": " ++ text)
      copyAll program style 1 progress rest
    | .ok descriptor =>
      let source ← Activity.fileStatus descriptor
      let target ← Activity.fileStatus .standardOutput
      if copiesToItself source target then
        complain program (name ++ ": input file is output file")
        closeNamed name descriptor
        copyAll program style 1 progress rest
      else
        let (copied, progress) ← show_ style progress descriptor
        closeNamed name descriptor
        match copied with
        | .fully => copyAll program style status progress rest
        | .unreadable errno =>
          complain program (name ++ ": " ++ errno.text)
          copyAll program style 1 progress rest
        | .unwritable errno =>
          complain program ("write error: " ++ errno.text)
          pure 1

def main (program : String) (arguments : List String) : Activity Int :=
  withOptions program options 1 arguments fun given =>
    copyAll program (Style.of given) 0 { number := 0, inLine := false,
                                         afterBlank := false }
      (sourcesOf given)

end JobShell.Programs.Cat
