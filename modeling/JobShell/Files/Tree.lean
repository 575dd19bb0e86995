/-!
# File trees

Directories, regular files, symbolic links, and the few special files that a
shell meets.  A regular file is known by a number, under which a `FileStore`
keeps its contents: a file that is open stays readable after its name is gone.
-/

namespace JobShell

/-- The programs that every machine has. -/
inductive Program where
  | true_
  | false_
  | cat
  | wc
  | sort
  | sleep
  | prlimit
  | sh
  deriving DecidableEq, Repr

namespace Program

def name : Program → String
  | true_ => "true"
  | false_ => "false"
  | cat => "cat"
  | wc => "wc"
  | sort => "sort"
  | sleep => "sleep"
  | prlimit => "prlimit"
  | sh => "sh"

def all : List Program := [true_, false_, cat, wc, sort, sleep, prlimit, sh]

end Program

inductive Node where
  | directory (entries : List (String × Node))
  | file (executable : Bool) (number : Nat)
  | link (target : String)
  | program (program : Program)
  /-- The device that takes everything and holds nothing. -/
  | null

namespace Node

instance : Inhabited Node := ⟨.null⟩

def isDirectory : Node → Bool
  | directory _ => true
  | _ => false

/-- A regular file, also one that holds a program of the machine. -/
def isFile : Node → Bool
  | file .. | program _ => true
  | _ => false

def isExecutableFile : Node → Bool
  | file executable _ => executable
  | program _ => true
  | _ => false

def entries : Node → List (String × Node)
  | directory entries => entries
  | _ => []

def child? (node : Node) (name : String) : Option Node :=
  node.entries.lookup name

/-- The node at a place, without following links. -/
def get? : Node → List String → Option Node
  | node, [] => some node
  | node, name :: rest => (node.child? name).bind fun next => next.get? rest

def putEntry (name : String) (node : Node) :
    List (String × Node) → List (String × Node)
  | [] => [(name, node)]
  | (other, old) :: rest =>
    if other = name then (name, node) :: rest
    else (other, old) :: putEntry name node rest

/-- The tree with `node` at a place; directories that are missing on the way are
made. -/
def put : Node → List String → Node → Node
  | _, [], node => node
  | tree, name :: rest, node =>
    let next := (tree.child? name).getD (directory [])
    directory (putEntry name (next.put rest node) tree.entries)

/-- The tree without what is at a place. -/
def erase : Node → List String → Node
  | tree, [] => tree
  | tree, [name] => directory (tree.entries.filter fun entry => entry.1 != name)
  | tree, name :: rest =>
    match tree.child? name with
    | none => tree
    | some next => directory (putEntry name (next.erase rest) tree.entries)

end Node

structure FileStore where
  root : Node
  contents : Array ByteArray

namespace FileStore

def read (store : FileStore) (number : Nat) : ByteArray :=
  store.contents.getD number ByteArray.empty

def write (store : FileStore) (number : Nat) (bytes : ByteArray) : FileStore :=
  { store with contents := store.contents.setIfInBounds number bytes }

/-- A new regular file at a place, which gets the next free number. -/
def create (store : FileStore) (location : List String) (executable : Bool)
    (bytes : ByteArray) : Nat × FileStore :=
  let number := store.contents.size
  (number,
    { root := store.root.put location (.file executable number)
      contents := store.contents.push bytes })

end FileStore

end JobShell
