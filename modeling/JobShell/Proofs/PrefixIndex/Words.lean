import JobShell.PrefixIndex
import Mathlib.Data.List.Induction
import Mathlib.Data.List.Sort

/-!
# The words of a prefix index

A prefix index is a list of distinct words in the order in which they came.
Every node of its tree holds the place, in that list, of the word that its path
spells.  A listing gathers the places below a node in the order of the tree;
sorting them gives the order of the list.
-/

namespace JobShell

namespace PrefixNode

/-- The place of the word that ends where a text leads to. -/
def placeAt (tree : PrefixNode) (text : List Char) : Option Nat :=
  (tree.find? text).bind entry

/-- The places at or below where a text leads to. -/
def placesAt (tree : PrefixNode) (text : List Char) : List Nat :=
  ((tree.find? text).map places).getD []

/-- Where a character leads to; a character that leads nowhere leads to no
word. -/
def branch (tree : PrefixNode) (c : Char) : PrefixNode :=
  (tree.child? c).getD empty

theorem find?_empty_cons (c : Char)
    (text : List Char) : empty.find? (c :: text) = none := by
  rw [find?]
  rfl

@[simp] theorem placeAt_empty (text : List Char) :
    empty.placeAt text = none := by
  cases text with
  | nil => rfl
  | cons c text => rw [placeAt, find?_empty_cons, Option.bind_none]

@[simp] theorem placesAt_nil (tree : PrefixNode) :
    tree.placesAt [] = tree.places := by
  rw [placesAt, find?, Option.map_some, Option.getD_some]

@[simp] theorem placesAt_empty (text : List Char) :
    empty.placesAt text = [] := by
  cases text with
  | nil => rw [placesAt_nil, empty, places, placesBelow]; rfl
  | cons c text => rw [placesAt, find?_empty_cons]; rfl

theorem placeAt_cons (tree : PrefixNode) (c : Char) (text : List Char) :
    tree.placeAt (c :: text) = (tree.branch c).placeAt text := by
  rw [placeAt, find?, branch]
  cases tree.child? c with
  | none => exact (placeAt_empty text).symm
  | some next => rfl

theorem placesAt_cons (tree : PrefixNode) (c : Char) (text : List Char) :
    tree.placesAt (c :: text) = (tree.branch c).placesAt text := by
  rw [placesAt, find?, branch]
  cases tree.child? c with
  | none => exact (placesAt_empty text).symm
  | some next => rfl

theorem lookup_putChild (c : Char) (tree : PrefixNode)
    (children : List (Char × PrefixNode)) (d : Char) :
    (putChild c tree children).lookup d = if d = c then some tree
      else children.lookup d := by
  by_cases same : d = c
  · subst same
    rw [if_pos rfl]
    induction children with
    | nil => rw [putChild, List.lookup_cons_self]
    | cons child children induction =>
        unfold putChild
        split
        · next here =>
            rw [← here]
            exact List.lookup_cons_self ..
        · next elsewhere =>
            have different : (d == child.1) = false := by simpa using elsewhere
            rw [List.lookup_cons, different]
            exact induction
  · rw [if_neg same]
    have different : (d == c) = false := by simpa using same
    induction children with
    | nil => rw [putChild, List.lookup_cons, different]
    | cons child children induction =>
        unfold putChild
        split
        · next here =>
            rw [List.lookup_cons, List.lookup_cons, ← here, different]
        · rw [List.lookup_cons, List.lookup_cons, induction]

theorem insert_nil (tree : PrefixNode) (place : Nat) :
    tree.insert [] place = node (tree.entry.or (some place)) tree.children := by
  obtain ⟨entry, children⟩ := tree
  rw [insert]
  rfl

theorem insert_cons (tree : PrefixNode) (c : Char) (word : List Char)
    (place : Nat) :
    tree.insert (c :: word) place =
      node tree.entry
        (putChild c ((tree.branch c).insert word place) tree.children) := by
  obtain ⟨entry, children⟩ := tree
  rw [insert]
  rfl

theorem branch_insert_nil (tree : PrefixNode) (place : Nat) (d : Char) :
    (tree.insert [] place).branch d = tree.branch d := by
  rw [insert_nil]
  rfl

theorem branch_insert_cons (tree : PrefixNode) (c : Char) (word : List Char)
    (place : Nat) (d : Char) :
    (tree.insert (c :: word) place).branch d =
      if d = c then (tree.branch c).insert word place else tree.branch d := by
  rw [insert_cons, branch, child?, children, lookup_putChild]
  split
  · rfl
  · rfl

/-- A word gets its place unless it has one, and no other word is moved. -/
theorem placeAt_insert (tree : PrefixNode) (word : List Char) (place : Nat)
    (text : List Char) :
    (tree.insert word place).placeAt text =
      if text = word then (tree.placeAt word).or (some place)
      else tree.placeAt text := by
  induction word generalizing tree text with
  | nil =>
      cases text with
      | nil => rw [insert_nil]; rfl
      | cons d text =>
          rw [placeAt_cons, branch_insert_nil, ← placeAt_cons]; simp
  | cons c word induction =>
      cases text with
      | nil => rw [insert_cons]; rfl
      | cons d text =>
          rw [placeAt_cons, branch_insert_cons]
          by_cases same : d = c
          · subst same
            simp [induction, placeAt_cons]
          · simp [same, placeAt_cons]

theorem placesBelow_putChild {c : Char} {tree : PrefixNode}
    {children : List (Char × PrefixNode)} {place : Nat}
    (more : tree.places.Perm
      (place :: ((children.lookup c).getD empty).places)) :
    (placesBelow (putChild c tree children)).Perm
      (place :: placesBelow children) := by
  induction children with
  | nil =>
      have single : tree.places.Perm [place] := by
        simpa [empty, places, placesBelow] using more
      simpa [putChild, placesBelow] using single
  | cons child children induction =>
      obtain ⟨d, other⟩ := child
      unfold putChild
      split
      · next here =>
          rw [here, List.lookup_cons_self, Option.getD_some] at more
          simpa [placesBelow] using more.append_right (placesBelow children)
      · next elsewhere =>
          have different : (c == d) = false := by simpa using elsewhere
          rw [List.lookup_cons, different] at more
          rw [placesBelow, placesBelow]
          exact ((induction more).append_left other.places).trans
            List.perm_middle

/-- A new word adds its place to those of the tree. -/
theorem places_insert {tree : PrefixNode} {word : List Char} (place : Nat)
    (new : tree.placeAt word = none) :
    (tree.insert word place).places.Perm (place :: tree.places) := by
  induction word generalizing tree with
  | nil =>
      obtain ⟨entry, children⟩ := tree
      have noEntry : entry = none := new
      rw [insert_nil, noEntry]
      exact .refl _
  | cons c word induction =>
      have inner := induction (placeAt_cons tree c word ▸ new)
      have outer :
          (placesBelow
            (putChild c ((tree.branch c).insert word place) tree.children)).Perm
          (place :: placesBelow tree.children) := placesBelow_putChild inner
      obtain ⟨entry, children⟩ := tree
      rw [insert_cons, places, places]
      exact (outer.append_left entry.toList).trans List.perm_middle

/-- A new word adds its place where one of its beginnings leads to, and nowhere
else. -/
theorem placesAt_insert {tree : PrefixNode} {word : List Char} (place : Nat)
    (new : tree.placeAt word = none) (text : List Char) :
    ((tree.insert word place).placesAt text).Perm
      (if text <+: word then place :: tree.placesAt text
        else tree.placesAt text) := by
  induction text generalizing tree word with
  | nil => simpa using places_insert place new
  | cons d text induction =>
      cases word with
      | nil => simp [placesAt_cons, branch_insert_nil]
      | cons c word =>
          rw [placesAt_cons, branch_insert_cons, placesAt_cons]
          by_cases same : d = c
          · subst same
            simpa using induction (placeAt_cons tree d word ▸ new)
          · simp [same]

end PrefixNode

namespace PrefixIndex

def startsWith (start word : String) : Bool :=
  start.toList.isPrefixOf word.toList

/-- The places of the words that begin with `start`. -/
def positions (start : String) (words : List String) : List Nat :=
  (words.zipIdx.filter fun entry => startsWith start entry.1).map Prod.snd

theorem positions_concat (start : String) (words : List String)
    (word : String) :
    positions start (words ++ [word]) =
      if startsWith start word then positions start words ++ [words.length]
      else positions start words := by
  unfold positions
  rw [List.zipIdx_append, List.filter_append, List.map_append]
  by_cases starts : startsWith start word = true <;> simp [starts]

theorem lt_of_mem_positions {start : String} {words : List String} {place : Nat}
    (member : place ∈ positions start words) : place < words.length := by
  obtain ⟨entry, kept, rfl⟩ := List.mem_map.mp member
  have listed := List.mem_zipIdx_iff_getElem?.mp (List.mem_filter.mp kept).1
  exact (List.getElem?_eq_some_iff.mp listed).1

theorem pairwise_positions (start : String) (words : List String) :
    (positions start words).Pairwise (· < ·) := by
  have inOrder : (words.zipIdx.map Prod.snd).Pairwise (· < ·) := by
    rw [List.zipIdx_map_snd]
    exact List.pairwise_lt_range'
  exact inOrder.sublist (List.filter_sublist.map Prod.snd)

theorem filterMap_positions (start : String) (words : List String) :
    (positions start words).filterMap (fun place => words[place]?) =
      words.filter (startsWith start) := by
  have looked :
      ∀ entry ∈ words.zipIdx.filter fun entry => startsWith start entry.1,
      words[entry.2]? = some entry.1 :=
    fun entry kept =>
      List.mem_zipIdx_iff_getElem?.mp (List.mem_filter.mp kept).1
  calc (positions start words).filterMap (fun place => words[place]?)
      = (words.zipIdx.filter fun entry => startsWith start entry.1).filterMap
          fun entry => words[entry.2]? := List.filterMap_map
    _ = (words.zipIdx.filter fun entry => startsWith start entry.1).map
      Prod.fst := by
          rw [List.filterMap_congr looked]
          exact congrFun List.filterMap_eq_map _
    _ = (words.zipIdx.map Prod.fst).filter (startsWith start) := by
          rw [List.filter_map]
          rfl
    _ = words.filter (startsWith start) := by rw [List.zipIdx_map_fst]

theorem getElem?_concat_eq_some_iff {words : List String} {word other : String}
    {place : Nat} :
    (words ++ [word])[place]? = some other ↔
      words[place]? = some other ∨ (place = words.length ∧ other = word) := by
  rcases Nat.lt_trichotomy place words.length with inside | same | outside
  · simp [List.getElem?_append_left inside, Nat.ne_of_lt inside]
  · simp [same, eq_comm]
  · have nothing : (words ++ [word])[place]? = none := by
      rw [List.getElem?_eq_none_iff, List.length_append]
      exact outside
    simp [nothing, List.getElem?_eq_none (Nat.le_of_lt outside),
      Nat.ne_of_gt outside]

/-- The index holds these words: the path of each one leads to its place, and
the places below a node are those of the words that go on from there. -/
structure Represents (index : PrefixIndex) (words : List String) : Prop where
  list : index.words = words
  distinct : words.Nodup
  placeAt : ∀ (word : String) (place : Nat),
    index.root.placeAt word.toList = some place ↔ words[place]? = some word
  placesAt : ∀ start : String,
    (index.root.placesAt start.toList).Perm (positions start words)

theorem represents_empty : empty.Represents [] where
  list := rfl
  distinct := .nil
  placeAt := by
    intro word place
    change PrefixNode.empty.placeAt word.toList = some place ↔ _
    simp
  placesAt := by
    intro start
    change (PrefixNode.empty.placesAt start.toList).Perm _
    rw [PrefixNode.placesAt_empty]
    exact .refl _

namespace Represents

variable {index : PrefixIndex} {words : List String}
  (represents : index.Represents words)

include represents

theorem contains_iff (word : String) :
    index.contains word = true ↔ word ∈ words := by
  have held : index.contains word = (index.root.placeAt word.toList).isSome :=
    rfl
  rw [held, Option.isSome_iff_exists, List.mem_iff_getElem?]
  exact exists_congr (represents.placeAt word)

theorem insert_fst (word : String) :
    (index.insert word).1 = true ↔ word ∉ words := by
  rw [← represents.contains_iff, PrefixIndex.insert]
  split
  · next held => simp [held]
  · next new => simp [new]

theorem insert_old {word : String} (old : word ∈ words) :
    (index.insert word).2.Represents words := by
  rw [PrefixIndex.insert, if_pos ((represents.contains_iff word).mpr old)]
  exact represents

theorem insert_new {word : String} (new : word ∉ words) :
    (index.insert word).2.Represents (words ++ [word]) := by
  have notHeld : ¬index.contains word = true := fun held =>
    new ((represents.contains_iff word).mp held)
  have unplaced : index.root.placeAt word.toList = none := by
    rw [Option.eq_none_iff_forall_ne_some]
    intro place placed
    exact new (List.mem_of_getElem? ((represents.placeAt word place).mp placed))
  have length : index.words.length = words.length := by rw [represents.list]
  rw [PrefixIndex.insert, if_neg notHeld, length]
  refine ⟨?_, ?_, ?_, ?_⟩
  · rw [represents.list]
  · rw [List.nodup_append]
    refine ⟨represents.distinct, List.nodup_singleton word, ?_⟩
    intro other member last listed same
    rw [List.mem_singleton] at listed
    exact new (listed ▸ same ▸ member)
  · intro other place
    rw [PrefixNode.placeAt_insert, unplaced, Option.none_or,
      getElem?_concat_eq_some_iff, ← represents.placeAt]
    by_cases same : other = word
    · subst same
      simp [unplaced, eq_comm]
    · simp [same, String.toList_inj]
  · intro start
    have more := PrefixNode.placesAt_insert words.length unplaced start.toList
    have before := represents.placesAt start
    by_cases starts : start.toList <+: word.toList
    · have starts' : startsWith start word = true :=
        List.isPrefixOf_iff_prefix.mpr starts
      rw [if_pos starts] at more
      rw [positions_concat, if_pos starts']
      exact (more.trans (before.cons words.length)).trans
        (List.perm_append_singleton _ _).symm
    · have starts' : ¬startsWith start word = true := fun isPrefix =>
        starts (List.isPrefixOf_iff_prefix.mp isPrefix)
      rw [if_neg starts] at more
      rw [positions_concat, if_neg starts']
      exact more.trans before

/-- The order of the list, which the tree does not know, comes back by
sorting. -/
theorem sorted (start : String) :
    (index.root.placesAt start.toList).mergeSort (· ≤ ·) =
      positions start words := by
  have same := (List.mergeSort_perm _ (· ≤ ·)).trans (represents.placesAt start)
  have inOrder :
      ((index.root.placesAt start.toList).mergeSort (· ≤ ·)).Pairwise (· ≤ ·) :=
    List.pairwise_mergeSort' (· ≤ ·) _
  have listed := (pairwise_positions start words).imp Nat.le_of_lt
  exact same.eq_of_pairwise (fun _ _ _ _ le ge => Nat.le_antisymm le ge)
    inOrder listed

theorem startingWith (start : String) :
    index.startingWith start = words.filter (startsWith start) := by
  have gathered : index.startingWith start =
      ((index.root.placesAt start.toList).mergeSort (· ≤ ·)).filterMap
        fun place => index.words[place]? := by
    rw [PrefixIndex.startingWith, PrefixNode.placesAt]
    cases index.root.find? start.toList with
    | none => simp
    | some tree => rfl
  rw [gathered, represents.sorted, represents.list, filterMap_positions]

theorem lt_of_mem_places {start : String} {tree : PrefixNode}
    (found : index.root.find? start.toList = some tree) {place : Nat}
    (member : place ∈ tree.places) : place < index.words.length := by
  have listed : place ∈ index.root.placesAt start.toList := by
    rw [PrefixNode.placesAt, found]
    exact member
  rw [represents.list]
  exact lt_of_mem_positions ((represents.placesAt start).mem_iff.mp listed)

end Represents

inductive Edit where
  | insert (word : String)
  | clear
  deriving DecidableEq, Repr

def edit (index : PrefixIndex) : Edit → PrefixIndex
  | .insert word => (index.insert word).2
  | .clear => index.clear

def editAll (index : PrefixIndex) (edits : List Edit) : PrefixIndex :=
  edits.foldl edit index

/-- The words that have been inserted since all were forgotten the last time. -/
def inserted (edits : List Edit) : List String :=
  edits.foldl (fun words edit =>
    match edit with
    | .insert word => words ++ [word]
    | .clear => []) []

theorem editAll_concat (index : PrefixIndex) (edits : List Edit) (last : Edit) :
    index.editAll (edits ++ [last]) = (index.editAll edits).edit last :=
  List.foldl_append ..

theorem inserted_concat_insert (edits : List Edit) (word : String) :
    inserted (edits ++ [.insert word]) = inserted edits ++ [word] :=
  List.foldl_append ..

theorem inserted_concat_clear (edits : List Edit) :
    inserted (edits ++ [.clear]) = [] :=
  List.foldl_append ..

theorem eraseDups_concat (words : List String) (word : String) :
    (words ++ [word]).eraseDups =
      if word ∈ words then words.eraseDups else words.eraseDups ++ [word] := by
  rw [List.eraseDups_append]
  split
  · next old => simp [List.removeAll, old]
  · next new => simp [List.removeAll, new, List.eraseDups_cons]

/-- Whatever calls were made, the index holds the distinct words inserted since
the last time that all were forgotten. -/
theorem represents_editAll (edits : List Edit) :
    (empty.editAll edits).Represents (inserted edits).eraseDups := by
  induction edits using List.reverseRecOn with
  | nil => exact represents_empty
  | append_singleton edits last induction =>
      rw [editAll_concat]
      cases last with
      | insert word =>
          rw [inserted_concat_insert, eraseDups_concat]
          split
          · next old => exact induction.insert_old (List.mem_eraseDups.mpr old)
          · next new =>
              exact induction.insert_new fun listed =>
                new (List.mem_eraseDups.mp listed)
      | clear =>
          rw [inserted_concat_clear]
          exact represents_empty

theorem ofWords_eq_editAll (words : List String) :
    ofWords words = empty.editAll (words.map .insert) := by
  rw [editAll, List.foldl_map]
  rfl

theorem inserted_map_insert (words : List String) :
    inserted (words.map .insert) = words := by
  induction words using List.reverseRecOn with
  | nil => rfl
  | append_singleton words word induction =>
      rw [List.map_append, List.map_singleton,
        inserted_concat_insert, induction]

theorem represents_ofWords (words : List String) :
    (ofWords words).Represents words.eraseDups := by
  have represents := represents_editAll (words.map .insert)
  rw [inserted_map_insert, ← ofWords_eq_editAll] at represents
  exact represents

/-- After any calls the index answers as the list of the distinct words does,
and no place that it looks up is outside the list. -/
theorem answers_as_distinct_words (edits : List Edit) :
    (inserted edits).eraseDups.Nodup ∧
    (∀ word : String,
      ((empty.editAll edits).insert word).1 = true ↔
        word ∉ (inserted edits).eraseDups) ∧
    (empty.editAll edits).count = (inserted edits).eraseDups.length ∧
    (∀ start : String, (empty.editAll edits).startingWith start =
      (inserted edits).eraseDups.filter
        fun word => start.toList.isPrefixOf word.toList) ∧
    (∀ (start : String) (tree : PrefixNode),
      (empty.editAll edits).root.find? start.toList = some tree →
        ∀ place ∈ tree.places, place < (empty.editAll edits).words.length) := by
  have represents := represents_editAll edits
  refine ⟨represents.distinct, represents.insert_fst, ?_,
    represents.startingWith, ?_⟩
  · exact congrArg List.length represents.list
  · intro start tree found place member
    exact represents.lt_of_mem_places found member

/-- A word comes twice, one is empty, and what was there before has been
forgotten. -/
def afterClear : List Edit :=
  [.insert "zen", .clear, .insert "zeta", .insert "", .insert "alpha",
    .insert "zeta", .insert "zebra"]

theorem answers_as_distinct_words_afterClear :
    ((empty.editAll afterClear).insert "zeta").1 ≠ true ∧
    ((empty.editAll afterClear).insert "zen").1 = true ∧
    (empty.editAll afterClear).startingWith "ze" = ["zeta", "zebra"] ∧
    ∃ tree, (empty.editAll afterClear).root.find? "ze".toList = some tree ∧
      3 ∈ tree.places ∧
      3 < (empty.editAll afterClear).words.length := by
  have distinct : (inserted afterClear).eraseDups =
      ["zeta", "", "alpha", "zebra"] := by
    decide +kernel
  obtain ⟨_, new, _, listed, inside⟩ := answers_as_distinct_words afterClear
  rw [distinct] at new listed
  refine ⟨?_, ?_, ?_, ?_⟩
  · rw [Ne, new]
    decide
  · rw [new]
    decide
  · rw [listed]
    decide +kernel
  · obtain ⟨tree, found⟩ : ∃ tree,
        (empty.editAll afterClear).root.find? "ze".toList = some tree :=
      Option.isSome_iff_exists.mp (by decide +kernel)
    have member : 3 ∈ (empty.editAll afterClear).root.placesAt "ze".toList := by
      decide +kernel
    rw [PrefixNode.placesAt, found] at member
    exact ⟨tree, found, member, inside "ze" tree found 3 member⟩

end PrefixIndex

end JobShell
