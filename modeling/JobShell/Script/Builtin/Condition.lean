import JobShell.Script.Builtin.Basic

/-!
# Conditions

The command that tests texts, numbers and files.
-/

namespace JobShell.Script.Builtin

open Run

/-- A test of one operand. -/
def testOne (world : World) (operator operand : String) : Option Bool :=
  let node? : Option Node := match world.lookup operand with
    | .ok (.node _ node) => some node
    | _ => none
  match operator with
  | "-n" => some !operand.isEmpty
  | "-z" => some operand.isEmpty
  | "-e" | "-r" | "-w" | "-u" | "-g" | "-k" | "-O" | "-G" =>
    if operator = "-u" || operator = "-g" || operator = "-k" then some false
    else some (world.exists_ operand)
  | "-f" => some ((node?.map Node.isFile).getD false)
  | "-d" => some (world.isDirectory operand)
  | "-x" =>
    some (world.isDirectory operand ||
      (node?.map Node.isExecutableFile).getD false)
  | "-s" =>
    match node? with
    | some (.file _ number) => some ((world.files.read number).size != 0)
    | some node => some (node.isFile || node.isDirectory)
    | none => some false
  | "-h" | "-L" =>
    match world.resolve .entry operand with
    | .ok (.node _ (.link _)) => some true
    | _ => some false
  | "-c" | "-b" | "-p" | "-S" | "-t" =>
    some (operator == "-c" &&
      (node?.map fun node => !node.isFile && !node.isDirectory).getD false)
  | _ => none

def comparisons : List (String × (Int → Int → Bool)) :=
  [("-eq", fun left right => left == right),
    ("-ne", fun left right => left != right),
    ("-lt", fun left right => left < right),
    ("-le", fun left right => left ≤ right),
    ("-gt", fun left right => right < left),
    ("-ge", fun left right => right ≤ left)]

def binaryTests : List String :=
  ["=", "!=", "<", ">", "-ef", "-nt", "-ot"] ++ comparisons.map Prod.fst

/-- A test of two operands; `none` when one of them is no number. -/
def testTwo (world : World) (left operator right : String) :
    Except String Bool :=
  match comparisons.lookup operator with
  | some compare =>
    match integer? left, integer? right with
    | some left, some right => .ok (compare left right)
    | none, _ => .error ("Illegal number: " ++ left)
    | _, none => .error ("Illegal number: " ++ right)
  | none =>
    match operator with
    | "=" => .ok (left == right)
    | "!=" => .ok (left != right)
    | "<" => .ok (left < right)
    | ">" => .ok (right < left)
    | "-ef" =>
      match world.lookup left, world.lookup right with
      | .ok (.node left _), .ok (.node right _) => .ok (left == right)
      | _, _ => .ok false
    | _ => .ok false

mutual

/-- The value of a condition, and the words behind it. -/
def condition (world : World) :
    (fuel : Nat) → List String → Except String (Bool × List String)
  | 0, _ => .error "too many arguments"
  | fuel + 1, words => do
    let (left, rest) ← conjunctionOf world fuel words
    match rest with
    | "-o" :: rest => do
      let (right, rest) ← condition world fuel rest
      pure (left || right, rest)
    | rest => pure (left, rest)

def conjunctionOf (world : World) : (fuel : Nat) → List String →
    Except String (Bool × List String)
  | 0, _ => .error "too many arguments"
  | fuel + 1, words => do
    let (left, rest) ← primary world fuel words
    match rest with
    | "-a" :: rest => do
      let (right, rest) ← conjunctionOf world fuel rest
      pure (left && right, rest)
    | rest => pure (left, rest)

def primary (world : World) :
    (fuel : Nat) → List String → Except String (Bool × List String)
  | 0, _ => .error "too many arguments"
  | fuel + 1, words =>
    match words with
    | [] => .error "argument expected"
    | [word] => .ok (!word.isEmpty, [])
    | first :: second :: rest =>
      match rest with
      | third :: others =>
        if binaryTests.contains second then do
          pure (← testTwo world first second third, others)
        else simplePrimary world fuel first second (third :: others)
      | [] => simplePrimary world fuel first second []

def simplePrimary (world : World) :
    (fuel : Nat) → String → String → List String →
    Except String (Bool × List String)
  | 0, _, _, _ => .error "too many arguments"
  | fuel + 1, first, second, rest =>
    if first = "!" then do
      let (value, rest) ← primary world fuel (second :: rest)
      pure (!value, rest)
    else if first = "(" then do
      let (value, rest) ← condition world fuel (second :: rest)
      match rest with
      | ")" :: rest => pure (value, rest)
      | _ => throw "closing paren expected"
    else
      match testOne world first second with
      | some value => .ok (value, rest)
      | none =>
        if second = "-a" || second = "-o" then
          .ok (!first.isEmpty, second :: rest)
        else .error (second ++ ": unexpected operator")

end

def test (words : List String) : Run Int := do
  if words.isEmpty then pure 1
  else
    let world ← Activity.observe
    match condition world (4 * (words.length + 2)) words with
    | .error message => fail message
    | .ok (value, []) => pure (if value then 0 else 1)
    | .ok (_, word :: _) => fail (word ++ ": unexpected operator")

/-- A test between brackets. -/
def bracketTest (words : List String) : Run Int := do
  if words.getLast? = some "]" then test words.dropLast else fail "missing ]"

end JobShell.Script.Builtin
