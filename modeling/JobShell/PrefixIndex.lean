/-!
# Prefix index

A set of words that answers two questions: which word is the longest one a
text begins with, and which words begin with a given text.  The words are kept
in the order of their first insertion, and every listing follows that order.
-/

namespace JobShell

/-- A node of the tree of words.  `entry` is the place of the word that ends
here, `children` leads on by one character. -/
inductive PrefixNode where
  | node (entry : Option Nat) (children : List (Char × PrefixNode))

namespace PrefixNode

def empty : PrefixNode := node none []

def entry : PrefixNode → Option Nat
  | node entry _ => entry

def children : PrefixNode → List (Char × PrefixNode)
  | node _ children => children

def child? (tree : PrefixNode) (c : Char) : Option PrefixNode :=
  tree.children.lookup c

/-- The children with the one at `c` replaced, or added at the end. -/
def putChild (c : Char) (tree : PrefixNode) :
    List (Char × PrefixNode) → List (Char × PrefixNode)
  | [] => [(c, tree)]
  | (d, other) :: rest => if c = d then (d, tree) :: rest
      else (d, other) :: putChild c tree rest

/-- The node that a text leads to. -/
def find? : PrefixNode → List Char → Option PrefixNode
  | tree, [] => some tree
  | tree, c :: rest => (tree.child? c).bind fun next => next.find? rest

/-- Marks the end of a word; a word that is marked already keeps its place. -/
def insert : PrefixNode → List Char → Nat → PrefixNode
  | node entry children, [], place => node (entry.or (some place)) children
  | node entry children, c :: rest, place =>
    let next := (children.lookup c).getD empty
    node entry (putChild c (next.insert rest place) children)

mutual

/-- All places at or below a node. -/
def places : PrefixNode → List Nat
  | node entry children => entry.toList ++ placesBelow children

def placesBelow : List (Char × PrefixNode) → List Nat
  | [] => []
  | (_, tree) :: rest => tree.places ++ placesBelow rest

end

/-- The byte length of the longest word below `tree` that the text begins with.
`offset` bytes have been read, and `best` is the last end of a word passed. -/
def longestMatch (tree : PrefixNode) (offset : Nat) (best : Option Nat) :
    List Char → Option Nat
  | [] => best
  | c :: rest =>
    match tree.child? c with
    | none => best
    | some next =>
      let offset := offset + c.utf8Size
      next.longestMatch offset
        (if next.entry.isSome then some offset else best) rest

end PrefixNode

structure PrefixIndex where
  root : PrefixNode
  words : List String

namespace PrefixIndex

def empty : PrefixIndex := ⟨PrefixNode.empty, []⟩

instance : Inhabited PrefixIndex := ⟨empty⟩

def contains (index : PrefixIndex) (word : String) : Bool :=
  ((index.root.find? word.toList).bind PrefixNode.entry).isSome

/-- Adds a word; the flag says whether it is new. -/
def insert (index : PrefixIndex) (word : String) : Bool × PrefixIndex :=
  if index.contains word then (false, index)
  else
    (true,
      { root := index.root.insert word.toList index.words.length
        words := index.words ++ [word] })

/-- Forgets all words. -/
def clear (_index : PrefixIndex) : PrefixIndex := empty

def ofWords (words : List String) : PrefixIndex :=
  words.foldl (fun index word => (index.insert word).2) empty

def count (index : PrefixIndex) : Nat := index.words.length

/-- The byte length of the longest non-empty word that the text begins with. -/
def longestMatch (index : PrefixIndex) (text : List Char) : Option Nat :=
  index.root.longestMatch 0 none text

/-- The words that begin with `start`, in the order of insertion. -/
def startingWith (index : PrefixIndex) (start : String) : List String :=
  match index.root.find? start.toList with
  | none => []
  | some tree =>
    (tree.places.mergeSort (· ≤ ·)).filterMap fun place => index.words[place]?

end PrefixIndex

end JobShell
