/-!
# Coloured text

A terminal shows text in a colour between two escape sequences.  A reset inside
the text would end the colour too early, so the colour is turned on again behind
it.
-/

namespace JobShell.Text

def reset : String := "\x1b[0m"

/-- The escape sequence that turns on display attributes, which are numbers. -/
def opening (codes : List Nat) : String :=
  "\x1b[" ++ ";".intercalate (codes.map toString) ++ "m"

/-- The text with `opening` put behind each reset in it. -/
def reopened (opening : List Char) : List Char → List Char
  | '\x1b' :: '[' :: '0' :: 'm' :: rest =>
    reset.toList ++ opening ++ reopened opening rest
  | c :: rest => c :: reopened opening rest
  | [] => []

def colour (codes : List Nat) (text : String) : String :=
  opening codes ++ String.ofList
    (reopened (opening codes).toList text.toList) ++ reset

end JobShell.Text
