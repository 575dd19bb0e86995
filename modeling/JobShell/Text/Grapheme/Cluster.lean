import JobShell.Text.Grapheme.Class

/-!
# Grapheme clusters

A grapheme cluster is what a reader takes for one character.  Texts are cut into
extended grapheme clusters, by the rules of Unicode for their boundaries.
Nothing is lost: the clusters make up the text.
-/

namespace JobShell.Text.Grapheme

/-- How far a sequence of joined pictographs has come. -/
inductive Pictogram where
  | none
  /-- A pictograph, and perhaps marks behind it. -/
  | drawn
  /-- The same with a joiner at its end. -/
  | joined
  deriving DecidableEq, Repr

/-- How far a conjunct of consonants has come. -/
inductive Conjunct where
  | none
  | begun
  /-- There is a linker behind the consonant. -/
  | linked
  deriving DecidableEq, Repr

/-- What counts, of the text in front of a place, for a boundary there.
`oddRegional` says that a pair of regional indicators has only begun. -/
structure Context where
  last : BreakClass
  pictogram : Pictogram
  conjunct : Conjunct
  oddRegional : Bool
  deriving DecidableEq, Repr

namespace Context

def nextPictogram (pictogram : Pictogram) : BreakClass → Pictogram
  | .pictograph => .drawn
  | .extend => if pictogram = .drawn then .drawn else .none
  | .joiner => if pictogram = .drawn then .joined else .none
  | _ => .none

def nextConjunct (conjunct : Conjunct) : ConjunctClass → Conjunct
  | .consonant => .begun
  | .linker => if conjunct = .none then .none else .linked
  | .extend => conjunct
  | .other => .none

/-- The context behind one more character. -/
def add (context : Context) (c : Char) : Context :=
  let kind := breakClass c
  { last := kind
    pictogram := nextPictogram context.pictogram kind
    conjunct := nextConjunct context.conjunct (conjunctClass c)
    oddRegional := kind == .regional && !context.oddRegional }

/-- The context behind the first character of a text. -/
def first (c : Char) : Context :=
  add { last := .control, pictogram := .none, conjunct := .none,
        oddRegional := false } c

def isSeparator (kind : BreakClass) : Bool :=
  kind == .control || kind == .carriageReturn || kind == .lineFeed

/-- Whether the parts of a syllable block stay together. -/
def joinsSyllable : BreakClass → BreakClass → Bool
  | .leading, kind =>
    kind == .leading || kind == .vowel || kind == .syllable || kind ==
      .closedSyllable
  | .syllable, kind | .vowel, kind => kind == .vowel || kind == .trailing
  | .closedSyllable, kind | .trailing, kind => kind == .trailing
  | _, _ => false

/-- Whether the next character belongs to the cluster of the one before it. -/
def joins (context : Context) (c : Char) : Bool :=
  let kind := breakClass c
  if context.last = .carriageReturn && kind = .lineFeed then true
  else if isSeparator context.last || isSeparator kind then false
  else
    joinsSyllable context.last kind || kind == .extend || kind == .joiner ||
      kind == .spacing ||
      context.last == .prepend ||
      (context.conjunct == .linked && conjunctClass c == .consonant) ||
      (context.pictogram == .joined && kind == .pictograph) ||
      (context.oddRegional && kind == .regional)

end Context

/-- The clusters of a text whose first one has begun; `cluster` is what is known
of it, backwards. -/
def clustersFrom (context : Context)
    (cluster : List Char) : List Char → List (List Char)
  | [] => [cluster.reverse]
  | c :: rest =>
    if context.joins c then clustersFrom (context.add c) (c :: cluster) rest
    else cluster.reverse :: clustersFrom (context.add c) [c] rest

def clusters : List Char → List (List Char)
  | [] => []
  | c :: rest => clustersFrom (.first c) [c] rest

theorem flatten_clustersFrom (context : Context) (cluster rest : List Char) :
    (clustersFrom context cluster rest).flatten = cluster.reverse ++ rest := by
  induction rest generalizing context cluster with
  | nil => simp [clustersFrom]
  | cons c rest induction =>
    unfold clustersFrom
    split <;> simp [induction]

/-- The clusters of a text make it up. -/
theorem flatten_clusters (text : List Char) :
    (clusters text).flatten = text := by
  cases text with
  | nil => rfl
  | cons c rest => simp [clusters, flatten_clustersFrom]

end JobShell.Text.Grapheme
