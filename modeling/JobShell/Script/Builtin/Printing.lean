import JobShell.Script.Builtin.Basic

/-!
# Printing

The command that writes its arguments, with the characters that backslashes
stand for.
-/

namespace JobShell.Script.Builtin

open Run

/-- The value of some octal digits. -/
def octal (digits : List Char) : Nat :=
  digits.foldl (fun sum c => 8 * sum + (c.toNat - 48)) 0

def isOctal (c : Char) : Bool := '0' ≤ c && c ≤ '7'

/-- The byte that a letter behind a backslash stands for. -/
def escape? (c : Char) : Option UInt8 :=
  [('a', 7), ('b', 8), ('f', 12), ('n', 10), ('r', 13), ('t', 9), ('v', 11),
    ('\\', 92)].lookup c

def bytesOf (c : Char) : List UInt8 := (String.singleton c).toUTF8.toList

/-- The bytes of a text with backslash sequences in it, and whether a sequence
says that nothing follows.  Behind `\0` there may be three octal digits. -/
def unescape : (fuel : Nat) → List Char → List UInt8 × Bool
  | 0, _ => ([], false)
  | _, [] => ([], false)
  | fuel + 1, '\\' :: c :: rest =>
    if c = 'c' then ([], true)
    else
      let digits :=
        (if c = '0' then rest.take 3 else (c :: rest).take 3).takeWhile isOctal
      let (front, rest) :=
        if isOctal c then
          ([(octal digits).toUInt8],
            if c = '0' then rest.drop digits.length
            else (c :: rest).drop digits.length)
        else
          match escape? c with
          | some byte => ([byte], rest)
          | none => (92 :: bytesOf c, rest)
      let (bytes, ended) := unescape fuel rest
      (front ++ bytes, ended)
  | fuel + 1, c :: rest =>
    let (bytes, ended) := unescape fuel rest
    (bytesOf c ++ bytes, ended)

def echo (arguments : List String) : Run Int := do
  let (words, ending) : List String × List UInt8 := match arguments with
    | "-n" :: words => (words, [])
    | words => (words, [10])
  let text := (" ".intercalate words).toList
  let (bytes, ended) := unescape (text.length + 1) text
  write ⟨(bytes ++ if ended then [] else ending).toArray⟩
  pure 0

end JobShell.Script.Builtin
