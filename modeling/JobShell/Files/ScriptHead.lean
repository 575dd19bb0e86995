/-!
# The first line of a script

A file whose text begins with `#!` names the program that is to run it, and
perhaps one argument for it.  Only the beginning of the file counts, which is as
good as filled up with NUL bytes.
-/

namespace JobShell

structure ScriptHead where
  program : String
  argument : Option String
  deriving DecidableEq, Repr

namespace ScriptHead

/-- How much of a file counts. -/
def length : Nat := 256

def isBlankByte (byte : UInt8) : Bool := byte == 32 || byte == 9

/-- The bytes of a file that count. -/
def beginning (bytes : ByteArray) : List UInt8 :=
  let start := (bytes.extract 0 length).toList
  start ++ List.replicate (length - start.length) 0

/-- Whether a byte ends a name. -/
def endsName (byte : UInt8) : Bool := isBlankByte byte || byte == 0

def withoutBlanks (line : List UInt8) : List UInt8 := line.dropWhile isBlankByte

def withoutLastBlanks (line : List UInt8) : List UInt8 :=
  (line.reverse.dropWhile isBlankByte).reverse

def textOf (bytes : List UInt8) : String :=
  (String.fromUTF8? ⟨(bytes.takeWhile (· != 0)).toArray⟩).getD "\ufffd"

/-- The line behind the mark.  It ends with a line feed in front of the first
NUL; without one, all but the last byte is the line, provided that a name ends
in it. -/
def line? (text : List UInt8) : Option (List UInt8) :=
  let front := text.takeWhile fun byte => byte != 10 && byte != 0
  if text[front.length]? == some 10 then some front
  else
    let start := withoutBlanks text
    if start.isEmpty || !start.any endsName then none else some text.dropLast

/-- The program and its argument, from the line behind the mark. -/
def ofLine? (line : List UInt8) : Option ScriptHead :=
  let line := withoutBlanks (withoutLastBlanks line)
  if line.isEmpty then none
  else
    let name := line.takeWhile fun byte => !endsName byte
    let behind := line.drop name.length
    let argument := if (behind.head?.map isBlankByte).getD false then
        some (textOf (withoutBlanks behind))
      else none
    some { program := textOf name, argument }

/-- What the first line of a file says. -/
def read? (bytes : ByteArray) : Option ScriptHead :=
  match beginning bytes with
  | 35 :: 33 :: text => (line? text).bind ofLine?
  | _ => none

end ScriptHead

end JobShell
