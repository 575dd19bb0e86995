import JobShell.Text.Seconds
import JobShell.Script.Expansion

/-!
# Output and numbers of builtin commands

What the commands that an interpreter of scripts runs itself have in common.
-/

namespace JobShell.Script.Builtin

open Run

/-- Writes to the output; what does not arrive is remembered. -/
def write (bytes : ByteArray) : Run Unit := do
  match ← Activity.write .standardOutput bytes with
  | .ok () => pure ()
  | .error _ => modify fun state => { state with unwritten := true }

def say (line : String) : Run Unit := write (line ++ "\n").toUTF8

/-- A whole number with a sign and blanks around it. -/
def integer? (text : String) : Option Int :=
  let trimmed :=
    (text.toList.dropWhile Char.isWhitespace).reverse.dropWhile
      Char.isWhitespace
  match trimmed.reverse with
  | '-' :: digits =>
    if digits.isEmpty || !digits.all Char.isDigit then none
    else some (-(Text.Decimal.value digits : Int))
  | '+' :: digits | digits =>
    if digits.isEmpty || !digits.all Char.isDigit then none
    else some (Text.Decimal.value digits)

/-- Numbers of commands are below this one. -/
def numberLimit : Int := Int.pow 2 31

/-- A number that is not negative. -/
def number (text : String) : Run Nat :=
  match integer? text with
  | some value =>
    if value < 0 || numberLimit ≤ value then illegal else pure value.toNat
  | none => illegal
where
  illegal : Run Nat := fail ("Illegal number: " ++ text)

/-- The number of a process.  There are no jobs to speak of. -/
def processNumber (text : String) : Run Nat :=
  if text.toList.head? == some '%' then fail ("No such job: " ++ text)
  else number text

/-- Takes the options at the start of some arguments: letters that are known,
some of which take a value. -/
def takeFlags (plain valued : List Char) :
    List String → Run (List (Char × String) × List String)
  | [] => pure ([], [])
  | argument :: rest =>
    match argument.toList with
    | ['-', '-'] => pure ([], rest)
    | '-' :: first :: more => do
      let word := first :: more
      let flags := word.takeWhile plain.contains
      let found := flags.map fun c => (c, "")
      match word.drop flags.length with
      | [] =>
        let (others, operands) ← takeFlags plain valued rest
        pure (found ++ others, operands)
      | c :: value =>
        if !valued.contains c then
          fail ("Illegal option -" ++ String.singleton c)
        else if value.isEmpty then
          match rest with
          | [] => fail ("No arg for -" ++ String.singleton c ++ " option")
          | next :: rest =>
            let (others, operands) ← takeFlags plain valued rest
            pure (found ++ (c, next) :: others, operands)
        else
          let (others, operands) ← takeFlags plain valued rest
          pure (found ++ (c, String.ofList value) :: others, operands)
    | _ => pure ([], argument :: rest)

/-- Gives a variable a value unless it must not change. -/
def assign (name value : String) : Run Unit := do
  if ((← get).get name).readOnly then fail (name ++ ": is read only")
  else modify fun state => state.assign name value

end JobShell.Script.Builtin
