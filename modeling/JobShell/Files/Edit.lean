import JobShell.Files.World

/-!
# Laying out a file tree

Operations that put files, links and directories where they are wanted, and take
them away again.
-/

namespace JobShell

/-- A place after the directory at a location has been removed with all that is
in it. -/
def Place.without (location : List String) (place : Place) : Place :=
  if location.isPrefixOf place.location then
    { place with
      removed :=
        max place.removed (place.location.length - location.length + 1) }
  else place

namespace World

def makeParents (world : World) (path : String) : World :=
  match Path.parent? path.toList with
  | none => world
  | some parent => (world.makeTree (String.ofList parent)).2

/-- Writes a whole file, which is made with its directories when it is missing.
-/
def placeFile (world : World) (path : String) (executable : Bool)
    (bytes : ByteArray) : World :=
  let world := world.makeParents path
  match world.resolve .target path with
  | .ok (.node location (.file _ number)) =>
    let files := world.files.write number bytes
    { world with
      files :=
        { files with
          root := files.root.put location (.file executable number) } }
  | .ok (.vacant location) =>
    { world with files := (world.files.create location executable bytes).2 }
  | _ => world

def placeLink (world : World) (path target : String) : World :=
  let world := world.makeParents path
  match world.resolve .entry path with
  | .ok (.vacant location) =>
    { world with
      files :=
        { world.files with
          root := world.files.root.put location (.link target) } }
  | _ => world

/-- Where the thing is that a path names, if it is there; a link is not
followed. -/
def locate? (world : World) (path : String) : Option (List String) :=
  match world.resolve .entry path with
  | .ok (.node location _) => some location
  | _ => none

/-- The bytes of a file that can be read. -/
def contents? (world : World) (path : String) : Option ByteArray :=
  (world.readFile path).toOption

/-- Removes a file, a link, or a directory with all that is in it. -/
def remove (world : World) (path : String) : World :=
  match world.locate? path with
  | none => world
  | some location =>
    { world with
      files := { world.files with root := world.files.root.erase location }
      place := world.place.without location }

end World

end JobShell
