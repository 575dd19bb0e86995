import JobShell.Line.Command
import JobShell.Files.World

/-!
# Opening files

What a redirection, or an appended line, does to the file tree: a file that is
to be written is made when it is missing, and emptied unless text is to be
appended to it.
-/

namespace JobShell

/-- What has been opened. -/
inductive Opened where
  | file (number : Nat)
  | program (program : Program)
  | directory
  | null
  deriving DecidableEq, Repr

namespace World

def setRoot (world : World) (root : Node) : World :=
  { world with files := { world.files with root } }

def writeFile (world : World) (number : Nat) (bytes : ByteArray) : World :=
  { world with files := world.files.write number bytes }

def openForReading (world : World) (path : String) : Except FileError Opened :=
  (world.lookup path).map fun
    | .node _ (.file _ number) => .file number
    | .node _ (.program program) => .program program
    | .node _ .null => .null
    | _ => .directory

def openForWriting (world : World) (keep : Bool) (path : String) :
    Except FileError (Opened × World) :=
  match world.resolve .file path with
  | .error error => .error error
  | .ok (.node _ (.file _ number)) =>
    .ok (.file number,
      if keep then world else world.writeFile number ByteArray.empty)
  | .ok (.node _ (.program _)) | .ok (.node _ .null) => .ok (.null, world)
  | .ok (.node ..) | .ok (.orphan _) => .error (.system .isDirectory)
  | .ok (.vacant location) =>
    let (number, files) := world.files.create location false ByteArray.empty
    .ok (.file number, { world with files })

def openFile (world : World) (operator : RedirectOp) (path : String) :
    Except FileError (Opened × World) :=
  match operator with
  | .input => (world.openForReading path).map fun opened => (opened, world)
  | .output => world.openForWriting false path
  | .append => world.openForWriting true path

/-- Appends text to a file, which is made when it is missing. -/
def appendText (world : World) (path text : String) : Except FileError World :=
  match world.openFile .append path with
  | .error error => .error error
  | .ok (.file number, world) =>
    .ok (world.writeFile number (world.files.read number ++ text.toUTF8))
  | .ok (_, world) => .ok world

end World

end JobShell
