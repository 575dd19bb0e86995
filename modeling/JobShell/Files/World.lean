import JobShell.Failure
import JobShell.Files.Path
import JobShell.Files.Tree

/-!
# What a process sees of the machine

The file tree, the working directory and the environment.  Paths are walked
step by step; a symbolic link on the way is replaced by its target, at most
forty times.
-/

namespace JobShell

/-- A directory that somebody is in.  It stays where it is when it is removed
from the tree: `removed` counts the last names of its location that lead nowhere
any more. -/
structure Place where
  location : List String
  removed : Nat
  deriving DecidableEq, Repr

namespace Place

def root : Place := { location := [], removed := 0 }

def isRemoved (place : Place) : Bool := place.removed != 0

def above (place : Place) : Place :=
  { location := place.location.dropLast, removed := place.removed - 1 }

def below (place : Place) (name : String) : Place :=
  { place with location := place.location ++ [name] }

end Place

/-- Variables in the order in which they were first set. -/
abbrev Environment := List (String × String)

namespace Environment

def get? (environment : Environment) (name : String) : Option String :=
  environment.lookup name

def unset (environment : Environment) (name : String) : Environment :=
  environment.filter fun entry => entry.1 != name

def set (environment : Environment) (name value : String) : Environment :=
  if (environment.get? name).isSome then
    environment.map fun entry => if entry.1 = name then (name, value) else entry
  else environment ++ [(name, value)]

end Environment

/-- `accountHome` is the home directory that the machine's accounts name for the
user, for when no variable does. -/
structure World where
  files : FileStore
  place : Place
  environment : Environment
  accountHome : String

/-- Where a path leads. -/
inductive Found where
  | node (location : List String) (node : Node)
  /-- Nothing has this name yet, but the directory for it is there. -/
  | vacant (location : List String)
  /-- A directory that has been removed. -/
  | orphan (place : Place)

/-- What a path is walked for. -/
inductive WalkGoal where
  /-- What is there, links followed. -/
  | target
  /-- What is there; a link at the very end is not followed. -/
  | entry
  /-- A file to be written, which is made when it is missing. -/
  | file
  /-- A directory to be made; a slash behind its name makes no difference. -/
  | newDirectory
  deriving DecidableEq, Repr

namespace WalkGoal

/-- Whether `rest` leaves a name the last one. -/
def isLast (goal : WalkGoal) (rest : List PathStep) : Bool :=
  rest.isEmpty || (goal == .newDirectory && rest == [.slash])

/-- Whether a link at the end is followed. -/
def followsLast : WalkGoal → Bool
  | target | file => true
  | entry | newDirectory => false

end WalkGoal

namespace World

def linkLimit : Nat := 40

def nameLimit : Nat := 255

def pathLimit : Nat := 4096

/-- Whether a place is a directory of the tree, or a removed one. -/
def isDirectoryAt (root : Node) (place : Place) : Bool :=
  place.isRemoved ||
    ((root.get? place.location).map Node.isDirectory).getD false

/-- Where a walk ends. -/
def arrive (root : Node) (place : Place) : Except Errno Found :=
  if place.isRemoved then .ok (.orphan place)
  else
    match root.get? place.location with
    | none => .error .noEntry
    | some node => .ok (.node place.location node)

/-- Walks from a place along some steps.  `links` links may still be followed.
Nothing has a name in a removed directory, and no file to be written has a slash
behind its name. -/
def walk (root : Node) (goal : WalkGoal) : (fuel links : Nat) → (here : Place) →
    (steps : List PathStep) → Except Errno Found
  | 0, _, _, _ => .error .tooManyLinks
  | _, _, here, [] => arrive root here
  | fuel + 1, links, here, step :: rest =>
    if !isDirectoryAt root here then .error .notDirectory
    else
      match step with
      | .slash | .name "." => walk root goal fuel links here rest
      | .name ".." => walk root goal fuel links here.above rest
      | .name name =>
        if goal = .file && rest = [.slash] then .error .isDirectory
        else if here.isRemoved then .error .noEntry
        else if name.utf8ByteSize > nameLimit then .error .nameTooLong
        else
          let next := here.below name
          match root.get? next.location with
          | none => if goal.isLast rest then .ok (.vacant next.location)
              else .error .noEntry
          | some node =>
            if goal.isLast rest && !goal.followsLast then
              .ok (.node next.location node)
            else
              match node, links with
              | .link _, 0 => .error .tooManyLinks
              | .link target, links + 1 =>
                if target.isEmpty then .error .noEntry
                else
                  let start :=
                    if Path.isAbsolute target.toList then .root else here
                  walk root goal fuel links start
                    (Path.steps target.toList ++ rest)
              | _, _ => walk root goal fuel links next rest

/-- Walks along a path of any length.  A link leads along less than `pathLimit`
steps. -/
def walkPath (world : World) (goal : WalkGoal)
    (path : String) : Except FileError Found :=
  if path.toList.contains '\x00' then .error .nulInName
  else if path.isEmpty then .error (.system .noEntry)
  else
    let steps := Path.steps path.toList
    let start := if Path.isAbsolute path.toList then .root else world.place
    (walk world.files.root goal (steps.length + linkLimit * pathLimit + 1)
      linkLimit start steps).mapError .system

def resolve (world : World) (goal : WalkGoal)
    (path : String) : Except FileError Found :=
  if !path.toList.contains '\x00' && path.utf8ByteSize ≥ pathLimit then
    .error (.system .nameTooLong)
  else world.walkPath goal path

/-- What somebody who looks for a thing finds: nothing but what is there. -/
def present : Found → Except FileError Found
  | .vacant _ => .error (.system .noEntry)
  | found => .ok found

/-- What is at a path, links followed. -/
def lookup (world : World) (path : String) : Except FileError Found :=
  (world.resolve .target path).bind present

def exists_ (world : World) (path : String) : Bool :=
  (world.lookup path).isOk

def isDirectory (world : World) (path : String) : Bool :=
  match world.lookup path with
  | .ok (.node _ node) => node.isDirectory
  | .ok (.orphan _) => true
  | _ => false

/-- The path of a place in the tree. -/
def pathOf (location : List String) : String :=
  if location.isEmpty then "/"
  else String.join (location.map fun name => "/" ++ name)

/-- The path of the working directory; there is none once it is removed. -/
def currentDirectory (world : World) : Except FileError String :=
  if world.place.isRemoved then .error (.system .noEntry)
  else .ok (pathOf world.place.location)

/-- The one path without links and dots that leads to the same place.  It is
found name by name, so that no path is too long for it. -/
def canonicalize (world : World) (path : String) : Except FileError String :=
  if !path.toList.contains '\x00' && !Path.isAbsolute path.toList &&
    world.place.isRemoved then
      .error (.system .noEntry)
  else
    match (world.walkPath .target path).bind present with
    | .ok (.node location _) => .ok (pathOf location)
    | .ok _ => .error (.system .noEntry)
    | .error error => .error error

/-- The world after a change of the working directory. -/
def enter (world : World) (path : String) : Except FileError World :=
  match world.lookup path with
  | .ok (.node location node) =>
    if node.isDirectory then
      .ok { world with place := { location, removed := 0 } }
    else .error (.system .notDirectory)
  | .ok (.orphan place) => .ok { world with place }
  | .ok (.vacant _) => .error (.system .noEntry)
  | .error error => .error error

/-- The entries of a directory. -/
def list (world : World) (path : String) :
    Except FileError (List (String × Node)) :=
  match world.lookup path with
  | .ok (.node _ (.directory entries)) => .ok entries
  | .ok (.node ..) => .error (.system .notDirectory)
  | .ok _ => .ok []
  | .error error => .error error

def readFile (world : World) (path : String) : Except FileError ByteArray :=
  match world.lookup path with
  | .ok (.node _ (.file _ number)) => .ok (world.files.read number)
  | .ok (.node _ node) =>
    if node.isDirectory then .error (.system .isDirectory)
    else .ok ByteArray.empty
  | .ok _ => .error (.system .isDirectory)
  | .error error => .error error

def readText (world : World) (path : String) : Except FileError String := do
  let bytes ← world.readFile path
  match String.fromUTF8? bytes with
  | some text => pure text
  | none => throw .notText

def makeDirectory (world : World) (path : String) : Except FileError World :=
  match world.resolve .newDirectory path with
  | .ok (.vacant location) =>
    let root := world.files.root.put location (.directory [])
    .ok { world with files := { world.files with root } }
  | .ok _ => .error (.system .alreadyExists)
  | .error error => .error error

/-- Makes a directory and those above it that are missing.  Each one above has
a shorter path. -/
def makeDirectories (world : World)
    (path : String) : (fuel : Nat) → Except FileError Unit × World
  | 0 => (.error .noWholeTree, world)
  | fuel + 1 =>
    if (Path.components path.toList).isEmpty then (.ok (), world)
    else
      match world.makeDirectory path with
      | .ok made => (.ok (), made)
      | .error error =>
        if error = .system .noEntry then
          match Path.parent? path.toList with
          | none => (.error .noWholeTree, world)
          | some above =>
            match makeDirectories world (String.ofList above) fuel with
            | (.error error, world) => (.error error, world)
            | (.ok (), world) =>
              match world.makeDirectory path with
              | .ok made => (.ok (), made)
              | .error error =>
                if world.isDirectory path then (.ok (), world)
                else (.error error, world)
        else if world.isDirectory path then (.ok (), world)
        else (.error error, world)

def makeTree (world : World) (path : String) : Except FileError Unit × World :=
  world.makeDirectories path (path.length + 1)

end World

end JobShell
