import JobShell.Text.Blank
import JobShell.Text.Lines
import JobShell.Files.Open

/-!
# History of command lines

The lines that have been entered, oldest first, and a cursor for walking through
them.  A history may belong to a file, to which each new line is appended.
-/

namespace JobShell

/-- The cursor is the place of an entry, or the number of entries when nothing
is being looked up. -/
structure History where
  entries : List String
  cursor : Nat
  file : Option String
  deriving DecidableEq, Repr

namespace History

def empty : History := { entries := [], cursor := 0, file := none }

instance : Inhabited History := ⟨empty⟩

/-- The lines of a text that are not blank. -/
def linesOf (text : String) : List String :=
  ((Text.splitReturnLines text.toList).map String.ofList).filter fun line =>
    !Text.allBlank line

/-- The history that a file holds; a missing file holds an empty one. -/
def load (world : World) (path : String) : Except FileError History :=
  let loaded (entries : List String) : History :=
    { entries, cursor := entries.length, file := some path }
  match world.readText path with
  | .ok text => .ok (loaded (linesOf text))
  | .error error => if error = .system .noEntry then .ok (loaded [])
      else .error error

/-- An entry is one line: line feeds become spaces. -/
def oneLine (line : String) : String :=
  String.ofList (line.toList.map fun c => if c = '\n' then ' ' else c)

/-- Adds a line unless it is blank; the cursor goes to the end in any case. -/
def append (history : History) (line : String) : History :=
  let entry := oneLine line
  let entries := if Text.allBlank entry then history.entries
    else history.entries ++ [entry]
  { history with entries, cursor := entries.length }

/-- What appending a line writes, and to which file. -/
def record? (history : History) (line : String) : Option (String × String) :=
  let entry := oneLine line
  if Text.allBlank entry then none
  else history.file.map fun file => (file, entry ++ "\n")

/-- Appends a line here and in the file.  A file that cannot be written stays
as it is. -/
def appendIn (world : World) (history : History)
    (line : String) : History × World :=
  let written := match history.record? line with
    | none => world
    | some (file, text) =>
      match world.appendText file text with
      | .ok world => world
      | .error _ => world
  (history.append line, written)

/-- One entry back; the oldest one is as far as it goes.  Without entries there
is nowhere to go. -/
def previous (history : History) : String × History :=
  if history.entries.isEmpty then ("", history)
  else
    let history := { history with cursor := history.cursor - 1 }
    (history.entries[history.cursor]!, history)

/-- One entry forward; there is nothing behind the newest one. -/
def next (history : History) : String × History :=
  let cursor :=
    if history.cursor < history.entries.length then history.cursor + 1
    else history.cursor
  (history.entries[cursor]?.getD "", { history with cursor })

end History

end JobShell
