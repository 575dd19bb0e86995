import JobShell.Script.Arithmetic
import JobShell.Script.Builtin.Printing

/-!
# Formats

The command that writes its arguments in a format.  The format is used again as
long as arguments are left.
-/

namespace JobShell.Script.Builtin

open Run

/-- One directive of a format: its flags, width and precision, and its
letter. -/
structure Directive where
  flags : List Char
  width : Nat
  precision : Option Nat
  letter : Char
  deriving DecidableEq, Repr

/-- A whole number at the start of a text, and whether the text ends behind it.
An empty text counts as zero. -/
structure Conversion where
  value : Int
  complaint : Option String
  deriving DecidableEq, Repr

/-- The number that an argument stands for, which is to be between two bounds.
Behind a quote it is that of a character. -/
def convert (least greatest : Int) (argument : String) : Conversion :=
  match argument.toList with
  | '\x22' :: rest | '\x27' :: rest =>
    { value := ((rest.head?.map Char.toNat).getD 0 : Nat), complaint := none }
  | text =>
    let text := text.dropWhile Char.isWhitespace
    let (negative, text) := match text with
      | '-' :: rest => (true, rest)
      | '+' :: rest => (false, rest)
      | text => (false, text)
    match Arithmetic.leading? text with
    | none =>
      { value := 0
        complaint := if argument.isEmpty then none
          else some "expected numeric value" }
    | some (size, rest) =>
      let value : Int := if negative then -size else size
      { value := max least (min greatest value)
        complaint :=
          if !rest.isEmpty then some "not completely converted"
          else if value < least || greatest < value then
            some "Numerical result out of range"
          else none }

/-- How far a run through a format has come. -/
structure Formatted where
  bytes : List UInt8
  arguments : List String
  complaints : List String
  /-- Nothing more follows. -/
  ended : Bool
  /-- The format itself is malformed. -/
  failed : Bool
  deriving DecidableEq, Repr

namespace Formatted

def add (done : Formatted) (bytes : List UInt8) : Formatted :=
  { done with bytes := done.bytes ++ bytes }

def fail (done : Formatted) (complaint : String) : Formatted :=
  { done with
    complaints := done.complaints ++ [complaint], ended := true,
    failed := true }

/-- The next argument; behind the last one there are empty ones. -/
def take (done : Formatted) : String × Formatted :=
  (done.arguments.headD "", { done with arguments := done.arguments.drop 1 })

/-- The next argument as a number. -/
def takeNumber (least greatest : Int) (done : Formatted) : Int × Formatted :=
  let (argument, done) := done.take
  let found := convert least greatest argument
  let complaints :=
    found.complaint.toList.map fun text => argument ++ ": " ++ text
  (found.value, { done with complaints := done.complaints ++ complaints })

end Formatted

/-- A number in a directive: digits, or an asterisk for the next argument. -/
def spanSize (text : List Char)
    (done : Formatted) : Int × List Char × Formatted :=
  match text with
  | '*' :: rest =>
    let (value, done) := done.takeNumber (-Int.pow 2 31) (Int.pow 2 31 - 1)
    (value, rest, done)
  | text =>
    (Text.Decimal.value (text.takeWhile Char.isDigit),
      text.dropWhile Char.isDigit, done)

/-- The directive behind a percent sign, and what follows it. -/
def spanDirective (text : List Char) (done : Formatted) :
    Option Directive × List Char × Formatted :=
  let flags := text.takeWhile fun c => "-0+ #".toList.contains c
  let (width, text, done) := spanSize (text.drop flags.length) done
  let (precision, text, done) : Option Int × List Char × Formatted :=
    match text with
    | '.' :: rest =>
      let (precision, text, done) := spanSize rest done
      (some precision, text, done)
    | text => (none, text, done)
  match text with
  | [] => (none, [], done)
  | letter :: rest =>
    (some
        { flags := if width < 0 then '-' :: flags else flags
          width := width.natAbs
          precision :=
            (precision.filter fun precision => 0 ≤ precision).map Int.toNat
          letter },
      rest, done)

namespace Directive

def has (directive : Directive) (flag : Char) : Bool :=
  directive.flags.contains flag

/-- Fills bytes up to the width with blanks. -/
def pad (directive : Directive) (bytes : List UInt8) : List UInt8 :=
  let fill := List.replicate (directive.width - bytes.length) 32
  if directive.has '-' then bytes ++ fill else fill ++ bytes

/-- The bytes that the precision lets through. -/
def cut (directive : Directive) (bytes : List UInt8) : List UInt8 :=
  match directive.precision with
  | some precision => bytes.take precision
  | none => bytes

/-- A number behind a sign or a mark of its base.  Zeros fill it up to the
precision, or to the width when that is asked for. -/
def numeral (directive : Directive) (front : String)
    (digits : List Char) : List UInt8 :=
  let least := match directive.precision with
    | some precision => precision
    | none =>
      if directive.has '0' && !directive.has '-' then
        directive.width - front.length else 1
  let digits :=
    if digits = ['0'] && directive.precision = some 0 then [] else digits
  let zeros := List.replicate (least - digits.length) '0'
  directive.pad (front ++ String.ofList (zeros ++ digits)).toUTF8.toList

def signed (directive : Directive) (value : Int) : List UInt8 :=
  let sign := if value < 0 then "-" else if directive.has '+' then "+"
    else if directive.has ' ' then " " else ""
  directive.numeral sign (Nat.toDigits 10 value.natAbs)

def unsigned (directive : Directive) (base : Nat) (value : Int) : List UInt8 :=
  let bits := Arithmetic.bits value
  let digits := Nat.toDigits base bits
  let marked := directive.has '#' && bits != 0
  let front := if marked && base = 16 then "0x" else ""
  let digits := if marked && base = 8 then '0' :: digits else digits
  directive.numeral front digits

end Directive

/-- Goes on behind a directive. -/
def formatOne (directive : Directive) (done : Formatted) : Formatted :=
  let unsigned (base : Nat) : List UInt8 × Formatted :=
    let (value, done) :=
      done.takeNumber (-(Int.pow 2 64 - 1)) (Int.pow 2 64 - 1)
    (directive.unsigned base value, done)
  match directive.letter with
  | 's' =>
    let (argument, done) := done.take
    done.add (directive.pad (directive.cut argument.toUTF8.toList))
  | 'c' =>
    let (argument, done) := done.take
    done.add (directive.pad (argument.toUTF8.toList.take 1))
  | 'b' =>
    let (argument, done) := done.take
    let (bytes, ended) := unescape (argument.length + 1) argument.toList
    { done.add (directive.pad (directive.cut bytes)) with ended }
  | 'd' | 'i' =>
    let (value, done) := done.takeNumber (-Int.pow 2 63) (Int.pow 2 63 - 1)
    done.add (directive.signed value)
  | 'u' =>
    let (bytes, done) := unsigned 10
    done.add bytes
  | 'o' =>
    let (bytes, done) := unsigned 8
    done.add bytes
  | 'x' =>
    let (bytes, done) := unsigned 16
    done.add bytes
  | 'X' =>
    let (bytes, done) := unsigned 16
    done.add (bytes.map fun byte =>
      if 97 ≤ byte && byte ≤ 122 then byte - 32 else byte)
  | letter =>
    done.fail ("%" ++ String.singleton letter ++ ": invalid directive")

/-- Goes once through a format. -/
def formatOnce : (fuel : Nat) → List Char → Formatted → Formatted
  | 0, _, done => done
  | _, [], done => done
  | fuel + 1, '%' :: '%' :: rest, done => formatOnce fuel rest (done.add [37])
  | fuel + 1, '%' :: rest, done =>
    match spanDirective rest done with
    | (none, _, done) => done.fail "missing format character"
    | (some directive, rest, done) =>
      let done := formatOne directive done
      if done.ended then done else formatOnce fuel rest done
  | fuel + 1, '\\' :: c :: rest, done =>
    let digits := ((c :: rest).take 3).takeWhile isOctal
    let (front, rest) :=
      if isOctal c then
        ([(octal digits).toUInt8], (c :: rest).drop digits.length)
      else
        match escape? c with
        | some byte => ([byte], rest)
        | none => (92 :: bytesOf c, rest)
    formatOnce fuel rest (done.add front)
  | fuel + 1, c :: rest, done => formatOnce fuel rest (done.add (bytesOf c))

/-- Goes through a format as long as arguments are left for it. -/
def formatAll (format : List Char) : (fuel : Nat) → Formatted → Formatted
  | 0, done => done
  | fuel + 1, done =>
    let next := formatOnce (format.length + 1) format done
    if next.ended || next.arguments.isEmpty ||
        next.arguments.length = done.arguments.length then
      next
    else formatAll format fuel next

def printf (arguments : List String) : Run Int := do
  match if arguments.head? = some "--" then arguments.drop 1 else arguments with
  | [] => fail "usage: printf format [arg ...]"
  | format :: rest =>
    let done := formatAll format.toList (rest.length + 1)
      { bytes := [], arguments := rest, complaints := [], ended := false,
        failed := false }
    done.complaints.forM fun complaint => warn complaint
    write ⟨done.bytes.toArray⟩
    if done.failed then throw (.failure failureStatus)
    else pure (if done.complaints.isEmpty then 0 else 1)

end JobShell.Script.Builtin
