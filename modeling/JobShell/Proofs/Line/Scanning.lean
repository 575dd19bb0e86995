import JobShell.Line.Lexer
import JobShell.Proofs.PrefixIndex.LongestMatch

/-!
# Scanning step by step

How the lexer goes over a text: a relation is taken whole, with the longest
symbol that the text begins with, and any other character changes the lexer by
itself.  A word that is being read ends where a blank or a relation follows.
-/

namespace JobShell

namespace Relation

theorem read?_eq_none {c : Char} (ordinary : startsSymbol c = false)
    (rest : List Char) :
    read? (c :: rest) = none := by
  generalize shape : c :: rest = text
  fun_cases read? text with
  | case9 => rfl
  | case1 | case2 | case3 | case4 | case5 | case6 | case7 | case8 =>
      cases shape
      cases ordinary

/-- The relations whose symbol is the beginning of a longer one. -/
def isExtensible : Relation → Bool
  | redirectOut | pipe | background => true
  | _ => false

/-- A symbol is read back where the text behind it does not make it longer. -/
theorem read?_symbol (relation : Relation) {behind : List Char}
    (apart : relation.isExtensible = true →
      behind.head? ≠ relation.symbol.toList.head?) :
    read? (relation.symbol.toList ++ behind) = some (relation, behind) := by
  cases relation with
  | redirectIn => rfl
  | redirectAppend => rfl
  | semi => rfl
  | or => rfl
  | and => rfl
  | redirectOut =>
      cases behind with
      | nil => rfl
      | cons c rest =>
          have different : c ≠ '>' := fun same => apart rfl (same ▸ rfl)
          change read? ('>' :: c :: rest) = _
          simp [read?, different]
  | pipe =>
      cases behind with
      | nil => rfl
      | cons c rest =>
          have different : c ≠ '|' := fun same => apart rfl (same ▸ rfl)
          change read? ('|' :: c :: rest) = _
          simp [read?, different]
  | background =>
      cases behind with
      | nil => rfl
      | cons c rest =>
          have different : c ≠ '&' := fun same => apart rfl (same ▸ rfl)
          change read? ('&' :: c :: rest) = _
          simp [read?, different]

theorem exists_read? {c : Char} (symbol : startsSymbol c = true)
    (rest : List Char) :
    ∃ relation behind, read? (c :: rest) = some (relation, behind) := by
  generalize shape : c :: rest = text
  fun_cases read? text with
  | case9 _ _ noOut noIn noSemi _ noPipe _ noBackground =>
      subst shape
      simp only [startsSymbol, Bool.or_eq_true, beq_iff_eq] at symbol
      rcases symbol with (((rfl | rfl) | rfl) | rfl) | rfl
      · exact absurd rfl (noOut rest)
      · exact absurd rfl (noIn rest)
      · exact absurd rfl (noSemi rest)
      · exact absurd rfl (noPipe rest)
      · exact absurd rfl (noBackground rest)
  | case1 | case2 | case3 | case4 | case5 | case6 | case7 | case8 =>
      exact ⟨_, _, rfl⟩

/-- A symbol at the start of a text is read, or a longer one is. -/
theorem exists_read?_of_begins (relation : Relation) (rest : List Char) :
    ∃ found behind,
      read? (relation.symbol.toList ++ rest) = some (found, behind) ∧
      relation.symbol.utf8ByteSize ≤ found.symbol.utf8ByteSize := by
  have short {c : Char} (symbol : startsSymbol c = true) :
      ∃ found behind, read? (c :: rest) = some (found, behind) ∧
        1 ≤ found.symbol.utf8ByteSize := by
    obtain ⟨found, behind, reads⟩ := exists_read? symbol rest
    exact ⟨found, behind, reads, by cases found <;> decide⟩
  cases relation with
  | redirectIn => exact short (c := '<') rfl
  | redirectOut => exact short (c := '>') rfl
  | semi => exact short (c := ';') rfl
  | pipe => exact short (c := '|') rfl
  | background => exact short (c := '&') rfl
  | redirectAppend => exact ⟨_, _, rfl, Nat.le_refl _⟩
  | or => exact ⟨_, _, rfl, Nat.le_refl _⟩
  | and => exact ⟨_, _, rfl, Nat.le_refl _⟩

theorem mem_all (relation : Relation) : relation ∈ all := by
  cases relation <;> decide

theorem represents_dictionary : dictionary.Represents (all.map symbol) :=
  PrefixIndex.represents_ofWords (all.map symbol)

/-- What is read is the longest match in the dictionary of the relations. -/
theorem longestMatch_dictionary (text : List Char) :
    dictionary.longestMatch text =
      (read? text).map fun found => found.1.symbol.utf8ByteSize := by
  rcases represents_dictionary.longestMatch_cases text with
    ⟨word, longest, answer⟩ | ⟨nothing, answer⟩
  · obtain ⟨relation, _, rfl⟩ := List.mem_map.mp longest.member
    obtain ⟨rest, rfl⟩ := longest.begins
    obtain ⟨found, behind, reads, atLeast⟩ :=
      exists_read?_of_begins relation rest
    have atMost :=
      longest.longest found.symbol (List.mem_map_of_mem found.mem_all)
      ⟨behind, (text_of_read? reads).symm⟩
    rw [answer, reads, Option.map_some, Nat.le_antisymm atLeast atMost]
  · rw [answer]
    cases reads : read? text with
    | none => rfl
    | some pair =>
        obtain ⟨found, behind⟩ := pair
        refine absurd ⟨behind, (text_of_read? reads).symm⟩
          (nothing found.symbol (List.mem_map_of_mem found.mem_all) ?_)
        cases found <;> decide

end Relation

theorem startsSymbol_of_isBlank {c : Char} (blank : isBlank c = true) :
    startsSymbol c = false := by
  rw [Bool.eq_false_iff]
  intro symbol
  simp only [startsSymbol, Bool.or_eq_true, beq_iff_eq] at symbol
  rcases symbol with (((rfl | rfl) | rfl) | rfl) | rfl <;>
    revert blank <;> decide

namespace Lexer

theorem relationAt?_of_mode {lexer : Lexer} (inside : lexer.mode ≠ .normal)
    (text : List Char) :
    lexer.relationAt? text = none := by
  simp [relationAt?, inside]

/-- Outside quotes the lexer takes the relation with the longest symbol in the
dictionary. -/
theorem relationAt?_eq_longestMatch {lexer : Lexer}
    (normal : lexer.mode = .normal) (text : List Char) :
    (lexer.relationAt? text).map (fun found => found.1.symbol.utf8ByteSize) =
      Relation.dictionary.longestMatch text := by
  rw [relationAt?, if_pos normal, Relation.longestMatch_dictionary]

@[simp] theorem scan_nil (lexer : Lexer) : lexer.scan [] = lexer := by
  rw [scan]

theorem scan_of_relationAt? {lexer : Lexer} {text behind : List Char}
    {relation : Relation}
    (found : lexer.relationAt? text = some (relation, behind)) :
    lexer.scan text = (lexer.addRelation relation).scan behind := by
  cases text with
  | nil => simp [relationAt?, Relation.read?] at found
  | cons c rest =>
      rw [scan]
      split
      · next foundToo =>
          rw [found] at foundToo
          cases foundToo
          rfl
      · next nothing =>
          rw [found] at nothing
          cases nothing

theorem scan_cons {lexer : Lexer} {c : Char} {rest : List Char}
    (nothing : lexer.relationAt? (c :: rest) = none) :
    lexer.scan (c :: rest) = (lexer.scanChar c).scan rest := by
  rw [scan]
  split
  · next found =>
      rw [nothing] at found
      cases found
  · rfl

theorem scan_cons_of_mode {lexer : Lexer} (inside : lexer.mode ≠ .normal)
    (c : Char) (rest : List Char) :
    lexer.scan (c :: rest) = (lexer.scanChar c).scan rest :=
  scan_cons (relationAt?_of_mode inside _)

theorem scan_cons_of_ordinary (lexer : Lexer) {c : Char}
    (ordinary : startsSymbol c = false) (rest : List Char) :
    lexer.scan (c :: rest) = (lexer.scanChar c).scan rest := by
  refine scan_cons ?_
  unfold relationAt?
  split
  · exact Relation.read?_eq_none ordinary rest
  · rfl

theorem endWord_endWord (lexer : Lexer) :
    lexer.endWord.endWord = lexer.endWord := by
  unfold endWord
  split <;> simp_all

theorem mode_endWord (lexer : Lexer) : lexer.endWord.mode = lexer.mode := by
  unfold endWord
  split <;> rfl

theorem addRelation_endWord (lexer : Lexer) (relation : Relation) :
    lexer.endWord.addRelation relation = lexer.addRelation relation := by
  unfold addRelation
  rw [endWord_endWord]

theorem scanChar_blank {lexer : Lexer} (normal : lexer.mode = .normal)
    {c : Char} (blank : isBlank c = true) :
    lexer.scanChar c = lexer.endWord := by
  simp [scanChar, normal, blank]

/-- A text before which a word ends. -/
def EndsWord (text : List Char) : Prop :=
  ∀ c ∈ text.head?, isBlank c = true ∨ startsSymbol c = true

/-- Before such a text it makes no difference whether the word has been
ended. -/
theorem endWord_scan_endWord {lexer : Lexer} (normal : lexer.mode = .normal)
    {text : List Char} (ends : EndsWord text) :
    (lexer.endWord.scan text).endWord = (lexer.scan text).endWord := by
  have normalToo : lexer.endWord.mode = .normal :=
    (mode_endWord lexer).trans normal
  cases text with
  | nil => simp [endWord_endWord]
  | cons c rest =>
      rcases ends c rfl with blank | symbol
      · have ordinary := startsSymbol_of_isBlank blank
        rw [scan_cons_of_ordinary _ ordinary, scan_cons_of_ordinary _ ordinary,
          scanChar_blank normal blank, scanChar_blank normalToo blank,
          endWord_endWord]
      · obtain ⟨relation, behind, found⟩ := Relation.exists_read? symbol rest
        have here : lexer.relationAt? (c :: rest) =
            some (relation, behind) := by
          simp [relationAt?, normal, found]
        have hereToo : lexer.endWord.relationAt? (c :: rest) =
            some (relation, behind) := by
          simp [relationAt?, normalToo, found]
        rw [scan_of_relationAt? here, scan_of_relationAt? hereToo,
          addRelation_endWord]

end Lexer

end JobShell
