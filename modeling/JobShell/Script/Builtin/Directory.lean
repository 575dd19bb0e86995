import JobShell.Script.Builtin.Basic

/-!
# The working directory

The commands that change and show it.
-/

namespace JobShell.Script.Builtin

open Run

/-- The path of a directory seen from another one, without dots. -/
def logicalPath (from_ target : String) : String :=
  let start := if Path.isAbsolute target.toList then []
    else Path.names from_.toList
  let names := (Path.names target.toList).foldl
    (fun names name =>
      if name = "." then names else if name = ".." then names.dropLast
      else names ++ [name])
    start
  (if startsTwice target.toList then "//" else "/") ++ "/".intercalate names
where
  /-- Two slashes at the start are not the same as one. -/
  startsTwice : List Char → Bool
    | '/' :: '/' :: rest => rest.head? != some '/'
    | _ => false

def announceDirectory (directory : String) : Run Unit :=
  modify fun state =>
    let state := state.assignExported "OLDPWD" state.directory
    { state with directory }.assignExported "PWD" directory

def changeDirectory (arguments : List String) : Run Int := do
  let state ← get
  let (flags, operands) ← takeFlags ['L', 'P'] [] arguments
  let (target, shows) := match operands.head? with
    | none => ((state.value? "HOME").getD "", false)
    | some "-" => ((state.value? "OLDPWD").getD "", true)
    | some target => (target, false)
  let physical := (flags.getLast?.map Prod.fst) == some 'P' ||
    (state.directory.isEmpty && !Path.isAbsolute target.toList)
  let path := if physical || target.isEmpty then target
    else logicalPath state.directory target
  let outcome ← if target.isEmpty then pure (.ok ())
    else Activity.changeDirectory path
  match outcome with
  | .error _ => fail ("can't cd to " ++ target)
  | .ok () =>
    let world ← Activity.observe
    let directory :=
      if physical then (world.currentDirectory.toOption).getD "" else path
    announceDirectory (if target.isEmpty then state.directory else directory)
    if shows then say (← get).directory
    pure 0

def printDirectory (arguments : List String) : Run Int := do
  let (flags, _) ← takeFlags ['L', 'P'] [] arguments
  if (flags.getLast?.map Prod.fst) == some 'P' then
    match (← Activity.observe).currentDirectory with
    | .ok directory => say directory
    | .error _ => say ""
  else say (← get).directory
  pure 0

end JobShell.Script.Builtin
