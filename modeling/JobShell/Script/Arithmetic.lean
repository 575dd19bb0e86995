/-!
# Arithmetic

Expressions over whole numbers of 64 bits, with variables that they may change.
-/

namespace JobShell.Script.Arithmetic

inductive Token where
  | number (value : Int)
  | name (text : String)
  | symbol (text : String)
  deriving DecidableEq, Repr

/-- The signs, longer ones first. -/
def symbols : List String :=
  ["<<=", ">>=", "&&", "||", "==", "!=", "<=", ">=", "<<", ">>", "+=", "-=",
    "*=", "/=", "%=", "&=", "|=", "^=", "+", "-", "*", "/", "%", "<", ">", "=",
    "!", "~", "&", "|", "^", "?", ":", "(", ")"]

def digit (c : Char) : Nat :=
  if c.isDigit then c.toNat - 48 else c.toLower.toNat - 87

/-- The digits of a base at the start of a text, and what follows them. -/
def spanNumber (base : Nat) (text : List Char) : Nat × List Char :=
  let fits (c : Char) : Bool := c.isAlphanum && digit c < base
  ((text.takeWhile fits).foldl (fun sum c => base * sum + digit c) 0,
    text.dropWhile fits)

/-- The number at the start of a text, and what follows it: hexadecimal behind
`0x`, octal behind a zero. -/
def leading? (text : List Char) : Option (Nat × List Char) :=
  match text with
  | '0' :: x :: c :: rest =>
    if (x = 'x' || x = 'X') && c.isAlphanum && digit c < 16 then
      some (spanNumber 16 (c :: rest))
    else some (spanNumber 8 text)
  | '0' :: _ => some (spanNumber 8 text)
  | c :: _ => if c.isDigit then some (spanNumber 10 text) else none
  | [] => none

/-- The number that a whole numeral stands for. -/
def numeral? (text : List Char) : Option Int :=
  match leading? text with
  | some (value, []) => some value
  | _ => none

def isNameCharacter (c : Char) : Bool := c.isAlphanum || c == '_'

/-- The tokens of a text.  A character that begins none is a token of its
own. -/
def tokens : (fuel : Nat) → List Char → List Token
  | 0, _ => []
  | _, [] => []
  | fuel + 1, c :: rest =>
    let text := c :: rest
    if c.isWhitespace then tokens fuel rest
    else
      match leading? text with
      | some (value, behind) => .number value :: tokens fuel behind
      | none =>
        if isNameCharacter c then
          .name (String.ofList (text.takeWhile isNameCharacter)) ::
            tokens fuel (text.dropWhile isNameCharacter)
        else
          match symbols.find? fun symbol => symbol.toList.isPrefixOf text with
          | some symbol =>
            .symbol symbol :: tokens fuel (text.drop symbol.length)
          | none => .symbol (String.singleton c) :: tokens fuel rest

/-- What an expression works on: the values of variables as texts, and those
that it has set, latest first. -/
structure Scope where
  value? : String → Option String
  changed : List (String × Int)

inductive Error where
  /-- Something else has to come next. -/
  | expecting (wanted : String)
  | divisionByZero
  | badNumber (text : String)
  deriving DecidableEq, Repr

/-- There is nothing that an operator could work on. -/
def noPrimary : Error := .expecting "primary"

namespace Error

def message (expression : String) : Error → String
  | expecting wanted =>
    "arithmetic expression: expecting " ++ wanted ++ ": \x22" ++
      expression ++ "\x22"
  | divisionByZero =>
    "arithmetic expression: division by zero: \x22" ++ expression ++ "\x22"
  | badNumber text => "Illegal number: " ++ text

end Error

abbrev Evaluation := StateT (List Token × Scope) (Except Error)

def wrap (value : Int) : Int := Int.bmod value (Nat.pow 2 64)

def ofBool (truth : Bool) : Int := if truth then 1 else 0

/-- The value of a variable; one that is not set counts as zero. -/
def valueOf (name : String) : Evaluation Int := do
  let scope := (← get).2
  match scope.changed.lookup name with
  | some value => pure value
  | none =>
    match scope.value? name with
    | none => pure 0
    | some text =>
      let trimmed :=
        (text.toList.dropWhile Char.isWhitespace).reverse.dropWhile
          Char.isWhitespace
      match trimmed.reverse with
      | [] => pure 0
      | '-' :: digits =>
        match numeral? digits with
        | some value => pure (-value)
        | none => throw (.badNumber text)
      | '+' :: digits | digits =>
        match numeral? digits with
        | some value => pure value
        | none => throw (.badNumber text)

def assign (name : String) (value : Int) : Evaluation Int := do
  modify fun (tokens, scope) =>
    (tokens, { scope with changed := (name, value) :: scope.changed })
  pure value

/-- Unsigned bits of a number, for the operators on bits. -/
def bits (value : Int) : Nat := (value % Int.pow 2 64).toNat

def apply (symbol : String) (left right : Int) : Except Error Int :=
  match symbol with
  | "+" => .ok (wrap (left + right))
  | "-" => .ok (wrap (left - right))
  | "*" => .ok (wrap (left * right))
  | "/" => if right = 0 then .error .divisionByZero
      else .ok (wrap (Int.tdiv left right))
  | "%" => if right = 0 then .error .divisionByZero
      else .ok (wrap (Int.tmod left right))
  | "<<" => .ok (wrap (left * Int.pow 2 (bits right % 64)))
  | ">>" => .ok (Int.fdiv left (Int.pow 2 (bits right % 64)))
  | "<" => .ok (ofBool (left < right))
  | ">" => .ok (ofBool (right < left))
  | "<=" => .ok (ofBool (left ≤ right))
  | ">=" => .ok (ofBool (right ≤ left))
  | "==" => .ok (ofBool (left == right))
  | "!=" => .ok (ofBool (left != right))
  | "&" => .ok (wrap (bits left &&& bits right : Nat))
  | "^" => .ok (wrap (bits left ^^^ bits right : Nat))
  | "|" => .ok (wrap (bits left ||| bits right : Nat))
  | "&&" => .ok (ofBool (left != 0 && right != 0))
  | "||" => .ok (ofBool (left != 0 || right != 0))
  | _ => .error noPrimary

/-- How strongly an operator binds. -/
def strength? (symbol : String) : Option Nat :=
  [("*", 10), ("/", 10), ("%", 10), ("+", 9), ("-", 9), ("<<", 8), (">>", 8),
    ("<", 7), (">", 7), ("<=", 7), (">=", 7), ("==", 6), ("!=", 6), ("&", 5),
    ("^", 4), ("|", 3), ("&&", 2), ("||", 1)].lookup symbol

def assignments : List (String × String) :=
  [("+=", "+"), ("-=", "-"), ("*=", "*"), ("/=", "/"), ("%=", "%"),
    ("<<=", "<<"), (">>=", ">>"), ("&=", "&"), ("|=", "|"), ("^=", "^")]

def peek : Evaluation (Option Token) := do pure (← get).1.head?

def drop (count : Nat) : Evaluation Unit :=
  modify fun (tokens, scope) => (tokens.drop count, scope)

def expect (symbol : String) : Evaluation Unit := do
  if (← peek) == some (.symbol symbol) then drop 1
  else throw (.expecting ("'" ++ symbol ++ "'"))

mutual

/-- An assignment, or a conditional expression. -/
def expression : (fuel : Nat) → Evaluation Int
  | 0 => throw noPrimary
  | fuel + 1 => do
    match (← get).1 with
    | .name name :: .symbol symbol :: _ =>
      if symbol = "=" then
        drop 2
        assign name (← expression fuel)
      else
        match assignments.lookup symbol with
        | some operator => do
          drop 2
          let old ← valueOf name
          let operand ← expression fuel
          assign name (← apply operator old operand)
        | none => conditional fuel
    | _ => conditional fuel

def conditional : (fuel : Nat) → Evaluation Int
  | 0 => throw noPrimary
  | fuel + 1 => do
    let condition ← binary fuel 1
    if (← peek) == some (.symbol "?") then
      drop 1
      let yes ← expression fuel
      expect ":"
      let no ← conditional fuel
      pure (if condition != 0 then yes else no)
    else pure condition

/-- Operators that bind at least as strongly as asked for. -/
def binary : (fuel : Nat) → (least : Nat) → Evaluation Int
  | 0, _ => throw noPrimary
  | fuel + 1, least => do binaryBehind fuel least (← unary fuel)

def binaryBehind : (fuel : Nat) → (least : Nat) → (left : Int) → Evaluation Int
  | 0, _, _ => throw noPrimary
  | fuel + 1, least, left => do
    match ← peek with
    | some (.symbol symbol) =>
      match strength? symbol with
      | some strength =>
        if strength < least then pure left
        else
          drop 1
          let right ← binary fuel (strength + 1)
          binaryBehind fuel least (← apply symbol left right)
      | none => pure left
    | _ => pure left

def unary : (fuel : Nat) → Evaluation Int
  | 0 => throw noPrimary
  | fuel + 1 => do
    match ← peek with
    | some (.number value) => drop 1; pure (wrap value)
    | some (.name name) => drop 1; valueOf name
    | some (.symbol "-") => drop 1; pure (wrap (-(← unary fuel)))
    | some (.symbol "+") => drop 1; unary fuel
    | some (.symbol "!") => drop 1; pure (ofBool ((← unary fuel) == 0))
    | some (.symbol "~") => drop 1; pure (-(← unary fuel) - 1)
    | some (.symbol "(") =>
      drop 1
      let value ← expression fuel
      expect ")"
      pure value
    | _ => throw noPrimary

end

/-- The value of an expression, and the variables that it has set, in the order
in which it has set them. -/
def evaluate (value? : String → Option String) (text : String) :
    Except Error (Int × List (String × Int)) := do
  match tokens (text.length + 1) text.toList with
  | [] => pure (0, [])
  | found =>
    let (value, (left, scope)) ←
      (expression (16 * (found.length + 1))).run
        (found, { value?, changed := [] })
    if left.isEmpty then pure (value, scope.changed.reverse)
    else throw (.expecting "EOF")

end JobShell.Script.Arithmetic
