import JobShell.Text.Numeral

/-!
# Time intervals in seconds

An interval is written as a decimal number with an optional fraction and an
optional exponent.  It counts as the nearest number of double precision, and
then as the nearest number of nanoseconds; in both steps a tie goes to the even
neighbour.
-/

namespace JobShell.Text

def nanosPerSecond : Nat := 1000000000

/-- A decimal numeral: `digits * 10 ^ exponent`, with a sign. -/
structure Decimal where
  negative : Bool
  digits : Nat
  exponent : Int
  deriving DecidableEq, Repr

namespace Decimal

/-- The sign in front of a numeral, if there is one. -/
def splitSign : List Char → Bool × List Char
  | '-' :: rest => (true, rest)
  | '+' :: rest => (false, rest)
  | text => (false, text)

/-- The value of a row of digits; nothing counts as zero. -/
def value (digits : List Char) : Nat :=
  digits.foldl (fun value c => 10 * value + (c.toNat - 48)) 0

/-- The digits at the start of a text, and what follows them. -/
def spanDigits (text : List Char) : List Char × List Char :=
  (text.takeWhile Char.isDigit, text.dropWhile Char.isDigit)

/-- The digits behind a point, if there is one. -/
def fraction : List Char → List Char × List Char
  | '.' :: rest => spanDigits rest
  | text => ([], text)

/-- The end of a numeral: nothing, or an exponent. -/
def exponent? : List Char → Option Int
  | [] => some 0
  | c :: rest =>
    if c = 'e' || c = 'E' then
      let (negative, text) := splitSign rest
      let (digits, behind) := spanDigits text
      if digits.isEmpty || !behind.isEmpty then none
      else some (if negative then -(value digits : Int) else value digits)
    else none

def parse? (text : String) : Option Decimal :=
  let (negative, unsigned) := splitSign text.toList
  let (whole, behindWhole) := spanDigits unsigned
  let (part, behind) := fraction behindWhole
  if whole.isEmpty && part.isEmpty then none
  else (exponent? behind).map fun exponent =>
    { negative, digits := value (whole ++ part),
      exponent := exponent - part.length }

end Decimal

/-- The whole number nearest to `numerator / denominator`, the even one of
two. -/
def roundDiv (numerator denominator : Nat) : Nat :=
  let quotient := numerator / denominator
  let rest := numerator % denominator
  if 2 * rest < denominator then quotient
  else if 2 * rest > denominator then quotient + 1
  else quotient + quotient % 2

/-- The nearest number of double precision, as `significand * 2 ^ exponent`.
Nothing is too great for it here: what is out of range stays greater than every
interval. -/
def roundDouble (numerator denominator : Nat) : Nat × Int :=
  let scaled (exponent : Int) : Nat × Nat :=
    (numerator * Nat.pow 2 (-exponent).toNat,
      denominator * Nat.pow 2 exponent.toNat)
  let guess : Int := (numerator.log2 : Int) - denominator.log2 - 52
  let fits := (scaled guess).2 * Nat.pow 2 52 ≤ (scaled guess).1
  let exponent := max (if fits then guess else guess - 1) (-1074)
  (roundDiv (scaled exponent).1 (scaled exponent).2, exponent)

/-- Intervals are shorter than this many seconds. -/
def secondsLimit : Nat := Nat.pow 2 64

/-- Beyond `10 ^ decimalLimit` a number is too great, and below the inverse of
it too small to differ from zero. -/
def decimalLimit : Nat := 400

/-- The interval that a decimal stands for, in nanoseconds.  Only a number that
rounds to zero may be negative. -/
def Decimal.nanoseconds? (decimal : Decimal) : Option Nat :=
  let length : Int := (Nat.toDigits 10 decimal.digits).length
  if decimal.digits = 0 || length + decimal.exponent < -decimalLimit then some 0
  else if length + decimal.exponent > decimalLimit then none
  else
    let numerator := decimal.digits * Nat.pow 10 decimal.exponent.toNat
    let denominator := Nat.pow 10 (-decimal.exponent).toNat
    let (significand, exponent) := roundDouble numerator denominator
    let above := significand * Nat.pow 2 exponent.toNat
    let below := Nat.pow 2 (-exponent).toNat
    if significand = 0 then some 0
    else if decimal.negative || above ≥ secondsLimit * below then none
    else some (roundDiv (above * nanosPerSecond) below)

/-- Reads an interval in seconds; gives nanoseconds. -/
def parseSeconds? (text : String) : Option Nat :=
  (Decimal.parse? text).bind Decimal.nanoseconds?

end JobShell.Text
