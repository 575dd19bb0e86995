import JobShell.Text.Bytes
import JobShell.Proofs.PrefixIndex.Words

/-!
# The longest word that a text begins with

Going down the tree along a text, one passes the end of every word that the text
begins with, and the last one that is passed is that of the longest.  So the
answer is the byte length of this word, a place where the text may be cut, and
it depends on the words alone and not on the order in which they came.
-/

namespace JobShell

theorem Text.byteLength_toList (text : String) :
    byteLength text.toList = text.utf8ByteSize := by
  have listed (characters : List Char) :
      (String.ofList characters).utf8ByteSize = byteLength characters := by
    induction characters with
    | nil => rfl
    | cons c rest induction =>
        rw [← List.singleton_append, String.ofList_append,
          String.utf8ByteSize_append, induction,
          byteLength_append, ← String.singleton_eq_ofList,
          String.utf8ByteSize_singleton]
        rfl
  rw [← listed, String.ofList_toList]

namespace PrefixNode

/-- A part of the text, not empty, that leads from the node to the end of a
word. -/
structure PassesEnd (tree : PrefixNode) (text front : List Char) : Prop where
  begins : front <+: text
  nonempty : front ≠ []
  ends : (tree.placeAt front).isSome = true

/-- The last end of a word on the way. -/
structure PassesLast (tree : PrefixNode) (text front : List Char) : Prop
    extends PassesEnd tree text front where
  last : ∀ other, tree.PassesEnd text other → other <+: front

variable {tree : PrefixNode} {c : Char} {rest front : List Char}

theorem not_passesEnd_nil : ¬tree.PassesEnd [] front := fun passes =>
  passes.nonempty (List.prefix_nil.mp passes.begins)

theorem passesEnd_cons_iff :
    tree.PassesEnd (c :: rest) front ↔
      (front = [c] ∧ (tree.branch c).entry.isSome = true) ∨
        ∃ behind,
          front = c :: behind ∧ (tree.branch c).PassesEnd rest behind := by
  constructor
  · rintro ⟨begins, nonempty, ends⟩
    cases front with
    | nil => exact absurd rfl nonempty
    | cons d behind =>
        obtain ⟨rfl, beginsRest⟩ := List.cons_prefix_cons.mp begins
        rw [placeAt_cons] at ends
        cases behind with
        | nil => exact .inl ⟨rfl, ends⟩
        | cons e behind =>
            exact .inr ⟨_, rfl, beginsRest, List.cons_ne_nil _ _, ends⟩
  · rintro (⟨rfl, ends⟩ | ⟨behind, rfl, begins, _, ends⟩)
    · refine ⟨List.cons_prefix_cons.mpr ⟨rfl, List.nil_prefix⟩,
        List.cons_ne_nil _ _, ?_⟩
      rw [placeAt_cons]
      exact ends
    · refine ⟨List.cons_prefix_cons.mpr ⟨rfl, begins⟩, List.cons_ne_nil _ _, ?_⟩
      rw [placeAt_cons]
      exact ends

theorem longestMatch_cons (offset : Nat) (best : Option Nat) :
    tree.longestMatch offset best (c :: rest) =
      (tree.branch c).longestMatch (offset + c.utf8Size)
        (if (tree.branch c).entry.isSome then some (offset + c.utf8Size)
          else best) rest := by
  rw [longestMatch, branch]
  cases tree.child? c with
  | some next => rfl
  | none => cases rest <;> rfl

/-- The answer is the last end of a word on the way, and what one came with
where there is none. -/
theorem longestMatch_cases (tree : PrefixNode) (offset : Nat)
    (best : Option Nat) (text : List Char) :
    (∃ front, tree.PassesLast text front ∧
      tree.longestMatch offset best text =
        some (offset + Text.byteLength front)) ∨
    ((∀ front, ¬tree.PassesEnd text front) ∧
      tree.longestMatch offset best text = best) := by
  induction text generalizing tree offset best with
  | nil => exact .inr ⟨fun _ => not_passesEnd_nil, rfl⟩
  | cons c rest induction =>
      rw [longestMatch_cons]
      rcases induction (tree.branch c) (offset + c.utf8Size)
          (if (tree.branch c).entry.isSome then some (offset + c.utf8Size)
            else best) with
        ⟨behind, passes, answer⟩ | ⟨nothing, answer⟩
      · refine .inl ⟨c :: behind,
          ⟨passesEnd_cons_iff.mpr (.inr ⟨behind, rfl, passes.1⟩), ?_⟩, ?_⟩
        · intro other passesOther
          rcases passesEnd_cons_iff.mp passesOther with ⟨rfl, _⟩ |
            ⟨more, rfl, passesMore⟩
          · exact List.cons_prefix_cons.mpr ⟨rfl, List.nil_prefix⟩
          · exact List.cons_prefix_cons.mpr ⟨rfl, passes.last more passesMore⟩
        · rw [answer, Text.byteLength, Nat.add_assoc]
      · by_cases ends : (tree.branch c).entry.isSome = true
        · refine .inl ⟨[c], ⟨passesEnd_cons_iff.mpr (.inl ⟨rfl, ends⟩), ?_⟩, ?_⟩
          · intro other passesOther
            rcases passesEnd_cons_iff.mp passesOther with ⟨rfl, _⟩ |
              ⟨more, rfl, passesMore⟩
            · exact List.prefix_rfl
            · exact absurd passesMore (nothing more)
          · rw [answer, if_pos ends]
            rfl
        · refine .inr ⟨?_, ?_⟩
          · intro front passesFront
            rcases passesEnd_cons_iff.mp passesFront with ⟨_, endsHere⟩ |
              ⟨more, _, passesMore⟩
            · exact ends endsHere
            · exact nothing more passesMore
          · rw [answer, if_neg ends]

end PrefixNode

namespace PrefixIndex

/-- The longest of the words that a text begins with; the empty word does not
count. -/
structure IsLongest (words : List String) (text : List Char)
    (word : String) : Prop where
  member : word ∈ words
  nonempty : word ≠ ""
  begins : word.toList <+: text
  longest : ∀ other ∈ words, other.toList <+: text →
    other.utf8ByteSize ≤ word.utf8ByteSize

/-- Only the words themselves matter. -/
theorem isLongest_congr {words others : List String} {text : List Char}
    {word : String} (same : ∀ word, word ∈ words ↔ word ∈ others) :
    IsLongest words text word ↔ IsLongest others text word := by
  have listed :
      (∀ other ∈ words, other.toList <+: text →
        other.utf8ByteSize ≤ word.utf8ByteSize) ↔
      ∀ other ∈ others, other.toList <+: text →
        other.utf8ByteSize ≤ word.utf8ByteSize :=
    forall_congr' fun other => by rw [same other]
  constructor
  · rintro ⟨member, nonempty, begins, longest⟩
    exact ⟨(same word).mp member, nonempty, begins, listed.mp longest⟩
  · rintro ⟨member, nonempty, begins, longest⟩
    exact ⟨(same word).mpr member, nonempty, begins, listed.mpr longest⟩

namespace IsLongest

variable {words : List String} {text : List Char} {word other : String}

theorem utf8ByteSize_eq (longest : IsLongest words text word)
    (longestToo : IsLongest words text other) :
    word.utf8ByteSize = other.utf8ByteSize :=
  Nat.le_antisymm (longestToo.longest word longest.member longest.begins)
    (longest.longest other longestToo.member longestToo.begins)

/-- The text may be cut where the word ends. -/
theorem cutAt? (longest : IsLongest words text word) :
    ∃ behind,
      Text.cutAt? text word.utf8ByteSize = some (word.toList, behind) := by
  obtain ⟨behind, rfl⟩ := longest.begins
  rw [← Text.byteLength_toList]
  exact ⟨behind, Text.cutAt?_byteLength word.toList behind⟩

end IsLongest

namespace Represents

variable {index : PrefixIndex} {words : List String}
  (represents : index.Represents words)

include represents

theorem passesEnd_iff (text : List Char) (word : String) :
    index.root.PassesEnd text word.toList ↔
      word ∈ words ∧ word ≠ "" ∧ word.toList <+: text := by
  have held : (index.root.placeAt word.toList).isSome = true ↔ word ∈ words :=
    represents.contains_iff word
  have nonempty : word.toList ≠ [] ↔ word ≠ "" := by
    rw [Ne, String.toList_eq_nil_iff]
  constructor
  · rintro ⟨begins, here, ends⟩
    exact ⟨held.mp ends, nonempty.mp here, begins⟩
  · rintro ⟨member, here, begins⟩
    exact ⟨begins, nonempty.mpr here, held.mpr member⟩

/-- The index answers with the length of the longest word, or there is no word
that the text begins with. -/
theorem longestMatch_cases (text : List Char) :
    (∃ word, IsLongest words text word ∧
      index.longestMatch text = some word.utf8ByteSize) ∨
    ((∀ word ∈ words, word ≠ "" → ¬word.toList <+: text) ∧
      index.longestMatch text = none) := by
  rcases index.root.longestMatch_cases 0 none text with
    ⟨front, passes, answer⟩ | ⟨nothing, answer⟩
  · obtain ⟨word, rfl⟩ : ∃ word : String, word.toList = front :=
      ⟨String.ofList front, String.toList_ofList⟩
    obtain ⟨member, nonempty, begins⟩ :=
      (represents.passesEnd_iff text word).mp passes.1
    refine .inl ⟨word, ⟨member, nonempty, begins, ?_⟩, ?_⟩
    · intro other listed beginsToo
      by_cases blank : other = ""
      · rw [blank]
        exact Nat.zero_le _
      · obtain ⟨more, shape⟩ :=
          passes.last _
            ((represents.passesEnd_iff text other).mpr
              ⟨listed, blank, beginsToo⟩)
        rw [← Text.byteLength_toList, ← Text.byteLength_toList, ← shape,
          Text.byteLength_append]
        exact Nat.le_add_right _ _
    · rw [PrefixIndex.longestMatch, answer, Nat.zero_add,
        Text.byteLength_toList]
  · refine .inr ⟨?_, answer⟩
    intro word member nonempty begins
    exact nothing _
      ((represents.passesEnd_iff text word).mpr ⟨member, nonempty, begins⟩)

theorem longestMatch_eq_some_iff (text : List Char) (length : Nat) :
    index.longestMatch text = some length ↔
      ∃ word, IsLongest words text word ∧ word.utf8ByteSize = length := by
  rcases represents.longestMatch_cases text with ⟨word, longest, answer⟩ |
    ⟨nothing, answer⟩
  · rw [answer, Option.some.injEq]
    constructor
    · intro same
      exact ⟨word, longest, same⟩
    · rintro ⟨other, longestToo, rfl⟩
      exact longest.utf8ByteSize_eq longestToo
  · rw [answer]
    constructor
    · intro found
      cases found
    · rintro ⟨word, longest, _⟩
      exact absurd longest.begins (nothing word longest.member longest.nonempty)

theorem longestMatch_eq_none_iff (text : List Char) :
    index.longestMatch text = none ↔
      ∀ word ∈ words, word ≠ "" → ¬word.toList <+: text := by
  rcases represents.longestMatch_cases text with ⟨word, longest, answer⟩ |
    ⟨nothing, answer⟩
  · rw [answer]
    constructor
    · intro found
      cases found
    · intro nothing
      exact absurd longest.begins (nothing word longest.member longest.nonempty)
  · exact iff_of_true answer nothing

end Represents

/-- After any calls the longest match is that of the longest word inserted since
all were forgotten, and there is none where the text begins with no word.  It
ends where a character ends, and it is the same whenever the same words have
been inserted, in any order and any number of times. -/
theorem longestMatch_is_longest (edits : List Edit) (text : List Char) :
    (∀ length, (empty.editAll edits).longestMatch text = some length ↔
      ∃ word,
        IsLongest (inserted edits) text word ∧ word.utf8ByteSize = length) ∧
    ((empty.editAll edits).longestMatch text = none ↔
      ∀ word ∈ inserted edits, word ≠ "" → ¬word.toList <+: text) ∧
    (∀ length, (empty.editAll edits).longestMatch text = some length →
      ∃ word ∈ inserted edits, ∃ behind,
        Text.cutAt? text length = some (word.toList, behind)) ∧
    (∀ others : List Edit,
      (∀ word, word ∈ inserted edits ↔ word ∈ inserted others) →
      (empty.editAll others).longestMatch text =
        (empty.editAll edits).longestMatch text) := by
  have found (edits : List Edit) (length : Nat) :
      (empty.editAll edits).longestMatch text = some length ↔
        ∃ word, IsLongest (inserted edits) text word ∧
          word.utf8ByteSize = length := by
    have same : ∀ word, word ∈ (inserted edits).eraseDups ↔
        word ∈ inserted edits :=
      fun _ => List.mem_eraseDups
    rw [(represents_editAll edits).longestMatch_eq_some_iff]
    exact exists_congr fun word => and_congr_left' (isLongest_congr same)
  refine ⟨found edits, ?_, ?_, ?_⟩
  · rw [(represents_editAll edits).longestMatch_eq_none_iff]
    exact forall_congr' fun word => by rw [List.mem_eraseDups]
  · intro length answer
    obtain ⟨word, longest, rfl⟩ := (found edits length).mp answer
    exact ⟨word, longest.member, longest.cutAt?⟩
  · intro others same
    apply Option.ext
    intro length
    rw [found others, found edits]
    exact exists_congr fun word => and_congr_left' (isLongest_congr same).symm

/-- Characters of one, two and three bytes.  The way along a text may go on
behind the end of the first word and come to no other one. -/
def accented : List Edit :=
  [.insert "é", .insert "", .insert "éa€b", .insert "x"]

theorem longestMatch_is_longest_accented :
    (empty.editAll accented).longestMatch "éa€c".toList = some 2 ∧
    (empty.editAll accented).longestMatch "éa€bx".toList = some 7 ∧
    (empty.editAll accented).longestMatch "yx".toList = none ∧
    (∃ word ∈ inserted accented, ∃ behind,
      Text.cutAt? "éa€c".toList 2 = some (word.toList, behind)) ∧
    (empty.editAll accented.reverse).longestMatch "éa€c".toList = some 2 := by
  obtain ⟨found, _, cut, anyOrder⟩ :=
    longestMatch_is_longest accented "éa€c".toList
  obtain ⟨foundWhole, _⟩ := longestMatch_is_longest accented "éa€bx".toList
  obtain ⟨_, nothing, _⟩ := longestMatch_is_longest accented "yx".toList
  have first : (empty.editAll accented).longestMatch "éa€c".toList = some 2 :=
    (found 2).mpr ⟨"é", ⟨by decide, by decide, by decide, by decide⟩, by decide⟩
  refine ⟨first, ?_, ?_, cut 2 first, ?_⟩
  · exact (foundWhole 7).mpr ⟨"éa€b",
      ⟨by decide, by decide, by decide, by decide⟩, by decide⟩
  · exact nothing.mpr (by decide)
  · have same : (inserted accented).Perm (inserted accented.reverse) := by
      decide
    rw [anyOrder accented.reverse fun word => same.mem_iff, first]

end PrefixIndex

end JobShell
