import JobShell.Text.Bytes
import JobShell.Text.Grapheme.Cluster

/-!
# Erasing while typing

A typed line may hold erase characters.  Each one takes away the grapheme
cluster before it, if one is left, and itself.  The length of a cluster is
remembered in a single byte.
-/

namespace JobShell.Text

def eraseCharacter : Char := '\x08'

/-- The lengths that a cluster can have for erasing: more than that count modulo
this number. -/
def clusterLengthLimit : Nat := 256

/-- What has been kept of a line, backwards, and the lengths of its clusters,
last one first. -/
structure Typed where
  kept : List Char
  lengths : List Nat
  deriving DecidableEq, Repr

namespace Typed

def empty : Typed := { kept := [], lengths := [] }

/-- A text that is held backwards, without its last bytes; `none` when these
begin inside a character. -/
def dropBytes? (length : Nat) (kept : List Char) : Option (List Char) :=
  (cutAt? kept length).map Prod.snd

/-- Takes one more cluster. -/
def add? (typed : Typed) (cluster : List Char) : Option Typed :=
  if cluster = [eraseCharacter] then
    match typed.lengths with
    | [] => some typed
    | length :: lengths =>
      (dropBytes? length typed.kept).map fun kept => { kept, lengths }
  else
    some
      { kept := cluster.reverse ++ typed.kept
        lengths := byteLength cluster % clusterLengthLimit :: typed.lengths }

end Typed

/-- What is left of a line after all erasing; `none` when the end of a character
alone would have to be erased. -/
def applyErasures? (line : List Char) : Option (List Char) :=
  ((Grapheme.clusters line).foldlM Typed.add? .empty).map fun typed =>
    typed.kept.reverse

end JobShell.Text
