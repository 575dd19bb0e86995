/-!
# Lines of a text

A line feed ends a line.  Text after the last line feed is a line of its own
when there is any.
-/

namespace JobShell.Text

/-- The lines of a text, each without the line feed that ends it. -/
def splitLines : List Char → List (List Char)
  | [] => []
  | '\n' :: rest => [] :: splitLines rest
  | c :: rest =>
    match splitLines rest with
    | line :: lines => (c :: line) :: lines
    | [] => [[c]]

/-- The lines of a text in which a carriage return may stand in front of a line
feed and goes with it. -/
def splitReturnLines : List Char → List (List Char)
  | [] => []
  | '\r' :: '\n' :: rest => [] :: splitReturnLines rest
  | '\n' :: rest => [] :: splitReturnLines rest
  | c :: rest =>
    match splitReturnLines rest with
    | line :: lines => (c :: line) :: lines
    | [] => [[c]]

end JobShell.Text
