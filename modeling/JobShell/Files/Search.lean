import JobShell.Files.World

/-!
# Home, search path and directory listings
-/

namespace JobShell.World

/-- The home directory for going home and for abbreviating paths. -/
def homeDirectory (world : World) : String :=
  (world.environment.get? "HOME").getD "/"

/-- The home directory that a leading tilde stands for. -/
def tildeHome (world : World) : String :=
  match world.environment.get? "HOME" with
  | some home => if home.isEmpty then world.accountHome else home
  | none => world.accountHome

/-- Puts the home directory in place of a leading `~` that stands alone or in
front of a slash. -/
def expandTilde (world : World) (path : String) : String :=
  match path.toList with
  | ['~'] => world.tildeHome
  | '~' :: '/' :: rest => world.tildeHome ++ String.ofList ('/' :: rest)
  | _ => path

/-- Abbreviates a path below the home directory; the root is no home. -/
def tildify (world : World) (path : String) : String :=
  let home := world.homeDirectory
  match Path.stripBase? path.toList home.toList with
  | none => path
  | some rest =>
    if Path.components home.toList = [.root] then path
    else if rest.isEmpty then "~"
    else "~/" ++ String.ofList rest

def searchPath (world : World) : List String :=
  ((world.environment.get? "PATH").map Path.splitSearch).getD []

/-- Whether a path leads to a regular file that may be executed. -/
def isProgram (world : World) (path : String) : Bool :=
  match world.lookup path with
  | .ok (.node _ node) => node.isExecutableFile
  | _ => false

/-- The program that a name stands for: the first one on the search path, or,
when there is a slash in the name, whatever is there. -/
def findProgram (world : World) (name : String) : Option String :=
  if name.toList.contains '/' then
    if world.exists_ name then some name else none
  else
    (world.searchPath.map fun directory => Path.join directory name).find?
      world.isProgram

/-- The executable files of the directories on the search path.  Links do not
count as files here. -/
def programNames (world : World) : List String :=
  world.searchPath.flatMap fun directory =>
    match world.list directory with
    | .error _ => []
    | .ok entries =>
      (entries.filter fun entry => entry.2.isExecutableFile).map Prod.fst

def entryName (entry : String × Node) : String :=
  if entry.2.isDirectory then entry.1 ++ "/" else entry.1

/-- The sorted names in a directory, with a slash behind those of directories;
none when it cannot be listed. -/
def directoryNames (world : World) (path : String) : List String :=
  match world.list path with
  | .error _ => []
  | .ok entries => (entries.map entryName).mergeSort (· ≤ ·)

end JobShell.World
