import JobShell.Text.Numeral
import JobShell.Programs.Options

/-!
# Sorting lines

Lines are ordered by their keys one after the other, and then as a whole.  Bytes
count as their numbers.
-/

namespace JobShell.Programs.Sort

def options : List KnownOption :=
  [⟨'b', "ignore-leading-blanks", false⟩, ⟨'c', "check", false⟩,
    ⟨'C', "check-silent", false⟩, ⟨'d', "dictionary-order", false⟩,
    ⟨'f', "ignore-case", false⟩, ⟨'i', "ignore-nonprinting", false⟩,
    ⟨'k', "key", true⟩, ⟨'m', "merge", false⟩, ⟨'n', "numeric-sort", false⟩,
    ⟨'o', "output", true⟩, ⟨'R', "random-sort", false⟩,
    ⟨'S', "buffer-size", true⟩, ⟨'r', "reverse", false⟩, ⟨'s', "stable", false⟩,
    ⟨'t', "field-separator", true⟩, ⟨'T', "temporary-directory", true⟩,
    ⟨'u', "unique", false⟩, ⟨'z', "zero-terminated", false⟩]

/-- A line without the byte that ends it. -/
abbrev Line := List UInt8

/-- How two keys are compared. -/
structure Order where
  skipsBlanks : Bool
  dictionary : Bool
  folds : Bool
  printing : Bool
  numeric : Bool
  reverse : Bool
  deriving DecidableEq, Repr

namespace Order

/-- The order that letters ask for. -/
def ofLetters (has : Char → Bool) : Order :=
  { skipsBlanks := has 'b', dictionary := has 'd', folds := has 'f',
    printing := has 'i'
    numeric := has 'n', reverse := has 'r' }

/-- The order of whole lines as they are. -/
def plain : Order := ofLetters fun _ => false

end Order

/-- A place in a line: a number of fields to pass, and then of bytes. -/
structure Position where
  fields : Nat
  bytes : Nat
  deriving DecidableEq, Repr

/-- A part of a line; without an end it goes on up to the end of the line.
`ownBlanks` says that blanks in front of the end are passed. -/
structure Key where
  start : Position
  stop : Option Position
  ownBlanks : Bool
  order : Order
  deriving DecidableEq, Repr

def isBlankByte (byte : UInt8) : Bool := byte == 32 || byte == 9 || byte == 10

def isDigitByte (byte : UInt8) : Bool := 48 ≤ byte && byte ≤ 57

def isLetterByte (byte : UInt8) : Bool :=
  (65 ≤ byte && byte ≤ 90) || (97 ≤ byte && byte ≤ 122)

def withoutBlanks (line : Line) : Line := line.dropWhile isBlankByte

/-- The length of the first fields of a line, with what separates them from the
next one when that is wanted. -/
def fieldsLength (separator : Option UInt8)
    (withLast : Bool) : (count : Nat) → Line → Nat
  | 0, _ => 0
  | count + 1, line =>
    match separator with
    | none =>
      let blanks := (line.takeWhile isBlankByte).length
      let field :=
        ((line.drop blanks).takeWhile fun byte => !isBlankByte byte).length
      let length := blanks + field
      length + fieldsLength separator withLast count (line.drop length)
    | some byte =>
      let field := (line.takeWhile (· != byte)).length
      let length := if field < line.length && (count != 0 || withLast) then
        field + 1 else field
      length + fieldsLength separator withLast count (line.drop length)

/-- The part of a line that a key means. -/
def Key.of (key : Key) (separator : Option UInt8) (line : Line) : Line :=
  let passed := fieldsLength separator true key.start.fields line
  let blanks := if key.order.skipsBlanks then
      ((line.drop passed).takeWhile isBlankByte).length
    else 0
  let start := min line.length (passed + blanks + key.start.bytes)
  let stop := match key.stop with
    | none => line.length
    | some place =>
      if place.bytes = 0 then
        fieldsLength separator false (place.fields + 1) line
      else
        let passed := fieldsLength separator true place.fields line
        let blanks := if key.ownBlanks then
            ((line.drop passed).takeWhile isBlankByte).length
          else 0
        min line.length (passed + blanks + place.bytes)
  (line.take stop).drop start

def compareBytes : Line → Line → Ordering
  | [], [] => .eq
  | [], _ :: _ => .lt
  | _ :: _, [] => .gt
  | left :: lefts, right :: rights =>
    if left < right then .lt else if right < left then .gt
    else compareBytes lefts rights

/-- The number at the start of a text, as a count of parts of one. -/
def numberOf (places : Nat) (text : Line) : Int :=
  let text := withoutBlanks text
  let (negative, text) := match text with
    | 45 :: rest => (true, rest)
    | text => (false, text)
  let whole := text.takeWhile isDigitByte
  let fraction := match text.drop whole.length with
    | 46 :: rest => rest.takeWhile isDigitByte
    | _ => []
  let digits :=
    whole ++ fraction ++ List.replicate (places - fraction.length) 48
  let value := digits.foldl (fun sum byte => 10 * sum + (byte.toNat - 48)) 0
  if negative then -value else value

def fold (byte : UInt8) : UInt8 :=
  if 97 ≤ byte && byte ≤ 122 then byte - 32 else byte

/-- The bytes of a key that count. -/
def Order.counted (order : Order) (text : Line) : Line :=
  let text := if order.skipsBlanks then withoutBlanks text else text
  let text := if order.dictionary then
      text.filter fun byte =>
        isBlankByte byte || isDigitByte byte || isLetterByte byte
    else text
  let text := if order.printing then text.filter isPrintByte else text
  if order.folds then text.map fold else text

def Order.compare (order : Order) (left right : Line) : Ordering :=
  let outcome := if order.numeric then
      let places := max left.length right.length
      Ord.compare (numberOf places left) (numberOf places right)
    else compareBytes (order.counted left) (order.counted right)
  if order.reverse then outcome.swap else outcome

/-- How lines are sorted. -/
structure Sorting where
  keys : List Key
  separator : Option UInt8
  whole : Order
  /-- Lines with equal keys stay as they are. -/
  stable : Bool
  unique : Bool
  deriving DecidableEq, Repr

namespace Sorting

/-- Compares the keys of two lines. -/
def compareKeys (sorting : Sorting) (left right : Line) : List Key → Ordering
  | [] => .eq
  | key :: rest =>
    match key.order.compare (key.of sorting.separator left)
      (key.of sorting.separator right) with
    | .eq => sorting.compareKeys left right rest
    | outcome => outcome

/-- Compares two lines by what they are sorted by. -/
def compareMain (sorting : Sorting) (left right : Line) : Ordering :=
  if sorting.keys.isEmpty then sorting.whole.compare left right
  else sorting.compareKeys left right sorting.keys

def compare (sorting : Sorting) (left right : Line) : Ordering :=
  match sorting.compareMain left right with
  | .eq =>
    if sorting.stable || sorting.unique then .eq
    else
      let outcome := compareBytes left right
      if sorting.whole.reverse then outcome.swap else outcome
  | outcome => outcome

/-- Lines without those that count as the same as the line before. -/
def withoutRepeats (sorting : Sorting) : List Line → List Line
  | first :: second :: rest =>
    if sorting.compareMain first second = .eq then
      sorting.withoutRepeats (first :: rest)
    else first :: sorting.withoutRepeats (second :: rest)
  | lines => lines
termination_by lines => lines.length

def notAfter (sorting : Sorting) (left right : Line) : Bool :=
  sorting.compare left right != .gt

/-- The lines of some sources in order.  With `merges`, each of them is taken as
it is. -/
def sort (sorting : Sorting) (merges : Bool)
    (sources : List (List Line)) : List Line :=
  let ordered := if merges then
      sources.foldl
        (fun lines source => List.merge lines source sorting.notAfter) []
    else sources.flatten.mergeSort sorting.notAfter
  if sorting.unique then sorting.withoutRepeats ordered else ordered

/-- The number of the first line that should stand in front of the one before
it, and the line. -/
def disorder? (sorting : Sorting)
    (number : Nat) : List Line → Option (Nat × Line)
  | first :: second :: rest =>
    let outcome := sorting.compare first second
    if outcome = .gt || (sorting.unique && outcome = .eq) then
      some (number + 1, second)
    else sorting.disorder? (number + 1) (second :: rest)
  | _ => none

end Sorting

/-- A number at the start of a text, and what follows it. -/
def spanNumber? (text : List Char) : Option (Nat × List Char) :=
  (Text.digitsValue? (text.takeWhile Char.isDigit)).map fun value =>
    (value, text.dropWhile Char.isDigit)

/-- A field, perhaps a byte in it, and letters behind them. -/
def spanPosition? (text : List Char) :
    Option (Nat × Option Nat × List Char × List Char) := do
  let (field, rest) ← spanNumber? text
  let (byte, rest) ← match rest with
    | '.' :: rest =>
      (spanNumber? rest).map fun (byte, rest) => (some byte, rest)
    | rest => some (none, rest)
  pure (field, byte, rest.takeWhile Char.isAlpha, rest.dropWhile Char.isAlpha)

/-- The key that a text describes.  One without letters of its own is compared
as whole lines are. -/
def key? (whole : Order) (text : String) : Option Key := do
  let (field, byte, letters, rest) ← spanPosition? text.toList
  let (stop, others) ← match rest with
    | [] => some (none, [])
    | ',' :: rest => do
      let (field, byte, letters, rest) ← spanPosition? rest
      if rest.isEmpty && field != 0 then
        pure (some { fields := field - 1, bytes := byte.getD 0 }, letters)
      else none
    | _ => none
  if field = 0 || byte = some 0 then none
  else
    let all := letters ++ others
    let order := if all.isEmpty then whole else
      { Order.ofLetters all.contains with skipsBlanks := letters.contains 'b' }
    some
      { start := { fields := field - 1, bytes := byte.getD 1 - 1 }, stop
        ownBlanks := if all.isEmpty then whole.skipsBlanks
          else others.contains 'b', order }

/-- The pieces of some bytes that each end in a byte; the last one may lack
it. -/
def piecesOf (ending : UInt8) : (fuel : Nat) → List UInt8 → List Line
  | 0, _ => []
  | _, [] => []
  | fuel + 1, bytes =>
    let line := bytes.takeWhile (· != ending)
    line :: piecesOf ending fuel (bytes.drop (line.length + 1))

/-- What keeps lines from being sorted. -/
inductive Trouble where
  | opening (name text : String)
  | reading (name text : String)

namespace Trouble

/-- `checks` says that the lines were only to be looked at. -/
def message (checks : Bool) : Trouble → String
  | opening name text =>
    (if checks then "open failed: " else "cannot read: ") ++ name ++
      ": " ++ text
  | reading name text => "read failed: " ++ name ++ ": " ++ text

end Trouble

/-- Reads sources one after the other, up to the first one that cannot be
read. -/
def readAll : List String → Activity (Except Trouble (List ByteArray))
  | [] => pure (.ok [])
  | name :: rest => do
    match ← openNamed name with
    | .error text => pure (.error (.opening name text))
    | .ok descriptor =>
      match ← readOpened name descriptor with
      | .error text => pure (.error (.reading name text))
      | .ok bytes => do
        let others ← readAll rest
        pure (others.map (bytes :: ·))

def failure : Int := 2

def refuse (program text : String) : Activity Int := do
  complain program text
  pure failure

/-- Writes sorted lines to the output, or to a file. -/
def writeAll (program : String) (target : Option String)
    (bytes : ByteArray) : Activity Int := do
  match target with
  | none =>
    match ← Activity.write .standardOutput bytes with
    | .ok () => pure 0
    | .error errno =>
      refuse program ("write failed: 'standard output': " ++ errno.text)
  | some name =>
    match ← Activity.openFile .output name with
    | .error error =>
      let text := match error with
        | .system errno => errno.text
        | error => error.message
      refuse program ("open failed: " ++ name ++ ": " ++ text)
    | .ok descriptor =>
      discard (Activity.write descriptor bytes)
      Activity.close descriptor
      pure 0

/-- Tells whether lines are sorted. -/
def check (program : String) (sorting : Sorting) (silent : Bool) (name : String)
    (lines : List Line) : Activity Int := do
  match sorting.disorder? 1 lines with
  | none => pure 0
  | some (number, line) =>
    if !silent then
      let text := (String.fromUTF8? ⟨line.toArray⟩).getD ""
      complain program
        (name ++ ":" ++ toString number ++ ": disorder: " ++ text)
    pure 1

def run (program : String) (given : Given)
    (sorting : Sorting) : Activity Int := do
  let sources := sourcesOf given
  let ending : UInt8 := if given.has 'z' then 0 else 10
  let checks := given.has 'c' || given.has 'C'
  match if checks then sources[1]? else none with
  | some extra =>
    let option := if given.has 'C' then "-C" else "-c"
    refuse program ("extra operand '" ++ extra ++
      "' not allowed with " ++ option)
  | none =>
    match ← readAll sources with
    | .error trouble => refuse program (trouble.message checks)
    | .ok contents =>
      let lines := contents.map fun bytes =>
        piecesOf ending (bytes.size + 1) bytes.toList
      if checks then
        check program sorting (given.has 'C') (sources.headD "-") lines.flatten
      else
        let sorted := sorting.sort (given.has 'm') lines
        writeAll program (given.value? 'o')
          ⟨(sorted.flatMap fun line => line ++ [ending]).toArray⟩

/-- The byte that a text names as a separator. -/
def separator? (text : String) : Except String UInt8 :=
  if text = "\\0" then .ok 0
  else
    match text.toUTF8.toList with
    | [byte] => .ok byte
    | [] => .error "empty tab"
    | _ => .error ("multi-character tab '" ++ text ++ "'")

def main (program : String) (arguments : List String) : Activity Int :=
  withOptions program options failure arguments fun given => do
    let whole := Order.ofLetters given.has
    let texts :=
      (given.options.filter fun option => option.1 == 'k').map Prod.snd
    match texts.find? (fun text => (key? whole text).isNone),
      (given.value? 't').map separator? with
    | some text, _ =>
      let reason := if text.toList.head? == some '0' then "field number is zero"
        else "invalid number at field start"
      refuse program
        (reason ++ ": invalid field specification '" ++ text ++ "'")
    | none, some (.error text) => refuse program text
    | none, separator =>
      let sorting : Sorting :=
        { keys := texts.filterMap (key? whole)
          separator := separator.bind Except.toOption, whole
          stable := given.has 's', unique := given.has 'u' }
      run program given sorting

end JobShell.Programs.Sort
