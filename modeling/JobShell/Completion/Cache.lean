import JobShell.Line.Sequence
import JobShell.Files.Search
import JobShell.Completion.Context

/-!
# Completion

Candidates come from four sources, each of which keeps the words it has loaded
for a while: the programs, the names in the working directory, the names in
another directory, and the variables.
-/

namespace JobShell

/-- Loaded words.  `loadedAt` is the time of loading in nanoseconds, and
`directory` the directory that the words are from, if they are from one. -/
structure WordSource where
  index : PrefixIndex
  loadedAt : Option Nat
  directory : Option String

namespace WordSource

def unloaded : WordSource :=
  { index := .empty, loadedAt := none, directory := none }

/-- Directories are the same when they have the same components. -/
def sameDirectory : Option String → Option String → Bool
  | none, none => true
  | some left, some right =>
    Path.components left.toList == Path.components right.toList
  | _, _ => false

def isStale (source : WordSource) (lifetime now : Nat)
    (directory : Option String) : Bool :=
  match source.loadedAt with
  | none => true
  | some loadedAt =>
    now - loadedAt ≥ lifetime || !sameDirectory source.directory directory

def load (words : List String) (now : Nat)
    (directory : Option String) : WordSource :=
  { index := PrefixIndex.ofWords words, loadedAt := some now, directory }

/-- The source with its words loaded anew if they are stale. -/
def refreshed (source : WordSource) (lifetime now : Nat)
    (directory : Option String) (words : List String) : WordSource :=
  if source.isStale lifetime now directory then
    load words now directory else source

end WordSource

/-- `lifetime` is how long loaded words stay good, in nanoseconds. -/
structure Completion where
  lifetime : Nat
  programs : WordSource
  hereNames : WordSource
  files : WordSource
  variableNames : WordSource

namespace Completion

def withLifetime (lifetime : Nat) : Completion :=
  { lifetime, programs := .unloaded, hereNames := .unloaded, files := .unloaded,
    variableNames := .unloaded }

def completePrograms (completion : Completion) (world : World) (now : Nat)
    (typed : String) : List String × Completion :=
  let source := completion.programs.refreshed completion.lifetime now none
    (builtinNames ++ world.programNames)
  (source.index.startingWith typed, { completion with programs := source })

def completeHereNames (completion : Completion) (world : World) (now : Nat)
    (typed : String) : List String × Completion :=
  match world.currentDirectory with
  | .error _ => ([], completion)
  | .ok directory =>
    let source :=
      completion.hereNames.refreshed completion.lifetime now (some directory)
      (world.directoryNames directory)
    (source.index.startingWith typed, { completion with hereNames := source })

/-- The directory part of what was typed, up to its last slash, and the rest. -/
def splitTyped (typed : List Char) : List Char × List Char :=
  ((typed.reverse.dropWhile (· != '/')).reverse,
    (typed.reverse.takeWhile (· != '/')).reverse)

/-- The names in the directory that was typed keep its text in front of them. -/
def completeFiles (completion : Completion) (world : World) (now : Nat)
    (typed : String) : List String × Completion :=
  let (directoryPart, name) := splitTyped typed.toList
  let directoryText := String.ofList directoryPart
  let directory := world.expandTilde directoryText
  let source :=
    completion.files.refreshed completion.lifetime now (some directory)
    (world.directoryNames directory)
  ((source.index.startingWith (String.ofList name)).map
    fun entry => directoryText ++ entry,
    { completion with files := source })

def completeVariables (completion : Completion) (world : World) (now : Nat)
    (typed : String) : List String × Completion :=
  let source := completion.variableNames.refreshed completion.lifetime now none
    ((world.environment.map Prod.fst).mergeSort (· ≤ ·))
  let name := match typed.toList with
    | '$' :: name => String.ofList name
    | _ => typed
  ((source.index.startingWith name).map fun entry => "$" ++ entry,
    { completion with variableNames := source })

/-- The first of each group of equal words. -/
def distinct (words : List String) : List String :=
  words.foldl
    (fun kept word => if kept.contains word then kept else kept ++ [word]) []

/-- The candidates from one source, when its category is wanted. -/
def when (wanted : Bool) (completion : Completion)
    (complete : Completion → List String × Completion) :
    List String × Completion :=
  if wanted then complete completion else ([], completion)

/-- The candidates of all wanted categories: programs, names in the working
directory, files and variables, in this order and each word once. -/
def complete (completion : Completion) (world : World) (now : Nat)
    (typed : String) (categories : Categories) : List String × Completion :=
  let (programs, completion) :=
    when categories.programs completion fun completion =>
      completion.completePrograms world now typed
  let (names, completion) :=
    when categories.hereNames completion fun completion =>
      completion.completeHereNames world now typed
  let (files, completion) := when categories.files completion fun completion =>
    completion.completeFiles world now typed
  let (variableNames, completion) :=
    when categories.variableNames completion fun completion =>
      completion.completeVariables world now typed
  (distinct (programs ++ names ++ files ++ variableNames), completion)

/-- Completes the word in front of a position: where it begins, and what may
take its place.  There is no answer for a position inside a character. -/
def completeLine? (completion : Completion) (world : World) (now : Nat)
    (line : String) (position : Nat) :
    Option ((Nat × List String) × Completion) :=
  (CursorContext.at? line.toList position).map fun context =>
    let (candidates, completion) :=
      completion.complete world now
        (String.ofList context.typed) context.categories
    ((context.start, candidates), completion)

end Completion

end JobShell
