/-!
# Path texts

A path is a text; its components are what lies between slashes.  Empty
components do not count, and neither does `.`, unless the path begins with it.
-/

namespace JobShell

inductive PathComponent where
  | root
  | current
  | parent
  | name (text : List Char)
  deriving DecidableEq, Repr

/-- A step of a walk through a file tree. -/
inductive PathStep where
  | name (name : String)
  /-- A slash at the end: what stands in front of it has to be a directory. -/
  | slash
  deriving DecidableEq, Repr

namespace Path

def isAbsolute (path : List Char) : Bool := path.head? == some '/'

/-- The text up to the first slash, and the text from that slash on. -/
def spanName (path : List Char) : List Char × List Char :=
  (path.takeWhile (· != '/'), path.dropWhile (· != '/'))

/-- The component that one piece between slashes stands for. -/
def pieceComponent? (piece : List Char) : Option PathComponent :=
  if piece = [] || piece = ['.'] then none
  else if piece = ['.', '.'] then some .parent
  else some (.name piece)

/-- The text with the slashes and the `.` pieces at its start taken away. -/
def trimLeft (path : List Char) : List Char :=
  match path with
  | [] => []
  | '/' :: rest => trimLeft rest
  | ['.'] => []
  | '.' :: '/' :: rest => trimLeft rest
  | path => path

/-- The length of what stands in front of the body of a path: the first slash of
an absolute path, or a leading `.`. -/
def headLength (path : List Char) : Nat :=
  match path with
  | '/' :: _ => 1
  | ['.'] => 1
  | '.' :: '/' :: _ => 1
  | _ => 0

/-- The body without the slashes and the `.` pieces at its end, from a body
that is read backwards. -/
def trimRightReversed (body : List Char) : List Char :=
  match body with
  | [] => []
  | '/' :: rest => trimRightReversed rest
  | ['.'] => []
  | '.' :: '/' :: rest => trimRightReversed rest
  | body => body

/-- The path without the slashes and the `.` pieces at its end. -/
def trimRight (path : List Char) : List Char :=
  let front := path.take (headLength path)
  let body := path.drop (headLength path)
  front ++ (trimRightReversed body.reverse).reverse

/-- The components of a body: a path without its root and its leading `.`. -/
def bodyComponents (fuel : Nat) (body : List Char) : List PathComponent :=
  match fuel with
  | 0 => []
  | fuel + 1 =>
    let (piece, rest) := spanName body
    let others := match rest with
      | [] => []
      | _ :: rest => bodyComponents fuel rest
    (pieceComponent? piece).toList ++ others

def components (path : List Char) : List PathComponent :=
  let body := path.drop (headLength path)
  let front := match path.head? with
    | some '/' => [.root]
    | some '.' => if headLength path = 1 then [.current] else []
    | _ => []
  front ++ bodyComponents (body.length + 1) body

/-- The text behind the first `count` components of a body. -/
def dropPieces (fuel count : Nat) (body : List Char) : List Char :=
  match fuel, count with
  | 0, _ => body
  | _, 0 => body
  | fuel + 1, count + 1 =>
    let (piece, rest) := spanName body
    let behind := rest.drop 1
    if (pieceComponent? piece).isSome then dropPieces fuel count behind
    else dropPieces fuel (count + 1) behind

/-- What is left of a path behind the components of `base`; `none` when these
are not the first ones.  Behind no component at all the path keeps its start. -/
def stripBase? (path base : List Char) : Option (List Char) :=
  let wanted := components base
  if wanted.isPrefixOf (components path) then
    match wanted with
    | [] => some (trimRight path)
    | first :: others =>
      let body := path.drop (headLength path)
      let count := match first with
        | .root | .current => others.length
        | _ => others.length + 1
      let behind := dropPieces (body.length + 1) count body
      some (trimRightReversed (trimLeft behind).reverse).reverse
  else none

/-- The path without its last component; the root and the empty path have none
to lose. -/
def parent? (path : List Char) : Option (List Char) :=
  match (components path).getLast? with
  | none | some .root => none
  | some .current => some []
  | some _ =>
    let kept := (trimRight path)
    let front := kept.take (headLength kept)
    let body := kept.drop (headLength kept)
    let shorter := (body.reverse.dropWhile (· != '/')).reverse
    some (trimRight (front ++ shorter))

/-- A path seen from a directory. -/
def join (directory path : String) : String :=
  if isAbsolute path.toList then path
  else if directory.isEmpty then path
  else if directory.toList.getLast? == some '/' then directory ++ path
  else directory ++ "/" ++ path

/-- The directories of a search path, between its colons. -/
def splitSearch (text : String) : List String :=
  go text.toList []
where
  go : List Char → List Char → List String
    | [], piece => [String.ofList piece.reverse]
    | c :: rest, piece =>
      if c = ':' then String.ofList piece.reverse :: go rest []
      else go rest (c :: piece)

/-- The names between the slashes of a path, for walking through a file tree.
`.` pieces stay, empty pieces go. -/
def names (path : List Char) : List String :=
  (pieces path []).filter fun piece => !piece.isEmpty
where
  pieces : List Char → List Char → List String
    | [], piece => [String.ofList piece.reverse]
    | c :: rest, piece =>
      if c = '/' then String.ofList piece.reverse :: pieces rest []
      else pieces rest (c :: piece)

/-- The steps of a walk along a path. -/
def steps (path : List Char) : List PathStep :=
  (names path).map .name ++ if path.getLast? == some '/' then [.slash] else []

end Path

end JobShell
