import Mathlib.Data.List.Permutation
import JobShell.Proofs.Line.Scanning

/-!
# Lines that go on

A lexer that has asked for another line stands where it would stand if it had
read the lines as one text.  A line break between them is white space, or a
character of a quoted word; behind a backslash there is none.  A text may be
read in two parts wherever the cut does not go through the symbol of a relation.
-/

namespace JobShell

namespace Relation

theorem symbol_of_isExtensible {relation : Relation}
    (extensible : relation.isExtensible = true) :
    ∃ c, relation.symbol.toList = [c] ∧ startsSymbol c = true := by
  cases relation with
  | redirectOut => exact ⟨'>', rfl, rfl⟩
  | pipe => exact ⟨'|', rfl, rfl⟩
  | background => exact ⟨'&', rfl, rfl⟩
  | redirectIn | redirectAppend | semi | or | and => cases extensible

theorem head?_ne_of_read? {text rest : List Char} {relation : Relation}
    (found : read? text = some (relation, rest))
    (extensible : relation.isExtensible = true) :
    rest.head? ≠ relation.symbol.toList.head? := by
  intro same
  have shape := text_of_read? found
  cases relation with
  | redirectOut | pipe | background =>
      obtain ⟨behind, rfl⟩ := List.head?_eq_some_iff.1 same
      subst shape
      cases found
  | redirectIn | redirectAppend | semi | or | and => cases extensible

/-- What is read of a text is also read where more follows, unless that makes
the symbol at the end of the text a longer one. -/
theorem read?_append {text rest : List Char} {relation : Relation}
    (found : read? text = some (relation, rest)) {behind : List Char}
    (whole : rest = [] → relation.isExtensible = true →
      behind.head? ≠ relation.symbol.toList.head?) :
    read? (text ++ behind) = some (relation, rest ++ behind) := by
  have shape := text_of_read? found
  have apart := head?_ne_of_read? found
  rw [shape, List.append_assoc]
  apply read?_symbol
  intro extensible
  cases rest with
  | nil => exact whole rfl extensible
  | cons c rest => exact apart extensible

theorem startsSymbol_eq_false {c : Char} {rest : List Char}
    (nothing : read? (c :: rest) = none) :
    startsSymbol c = false := by
  rw [Bool.eq_false_iff]
  intro symbol
  obtain ⟨relation, behind, found⟩ := exists_read? symbol rest
  rw [nothing] at found
  cases found

end Relation

namespace Lexer

/-- `front` ends in a relation, and `behind` goes on with its symbol. -/
def CutsRelation (lexer : Lexer) (front behind : List Char) : Prop :=
  ∃ relation : Relation, relation.isExtensible = true ∧
    (lexer.scan front).mode = .normal ∧ (lexer.scan front).inWord = false ∧
    (lexer.scan front).tokens.getLast? = some (.relation relation) ∧
    front.getLast? = relation.symbol.toList.head? ∧
    behind.head? = relation.symbol.toList.head?

theorem CutsRelation.append_left {lexer later : Lexer} {tail behind : List Char}
    (cuts : later.CutsRelation tail behind) {lead : List Char}
    (scanned : lexer.scan (lead ++ tail) = later.scan tail) :
    lexer.CutsRelation (lead ++ tail) behind := by
  obtain ⟨relation, extensible, normal, noWord, tokens, last, next⟩ := cuts
  obtain ⟨c, shape, _⟩ := Relation.symbol_of_isExtensible extensible
  have lastToo : (lead ++ tail).getLast? = relation.symbol.toList.head? := by
    rw [List.getLast?_append, last, shape]
    rfl
  rw [← scanned] at normal noWord tokens
  exact ⟨relation, extensible, normal, noWord, tokens, lastToo, next⟩

theorem relationAt?_cons_eq_none {lexer : Lexer} {c : Char} {rest : List Char}
    (nothing : lexer.relationAt? (c :: rest) = none) (other : List Char) :
    lexer.relationAt? (c :: other) = none := by
  unfold relationAt? at nothing ⊢
  split at nothing
  · next normal =>
      rw [if_pos normal]
      exact Relation.read?_eq_none
        (Relation.startsSymbol_eq_false nothing) other
  · next inside => rw [if_neg inside]

theorem read?_of_relationAt? {lexer : Lexer} {text rest : List Char}
    {relation : Relation}
    (found : lexer.relationAt? text = some (relation, rest)) :
    lexer.mode = .normal ∧ Relation.read? text = some (relation, rest) := by
  unfold relationAt? at found
  split at found
  · next normal => exact ⟨normal, found⟩
  · cases found

theorem addRelation_noWord (lexer : Lexer) (relation : Relation) :
    (lexer.addRelation relation).inWord = false := by
  unfold addRelation endWord
  split
  · rfl
  · next noWord => simpa using noWord

/-- The scanner needs to see no more than its part of a text, as long as the cut
leaves the relations whole. -/
theorem scan_append {lexer : Lexer} {front behind : List Char}
    (whole : ¬lexer.CutsRelation front behind) :
    lexer.scan (front ++ behind) = (lexer.scan front).scan behind := by
  fun_induction scan lexer front with
  | case1 lexer => rfl
  | case2 lexer c rest relation tail found _ induction =>
      obtain ⟨normal, read⟩ := read?_of_relationAt? found
      have shape := Relation.text_of_read? read
      have scanned := scan_of_relationAt? found
      have apart : tail = [] → relation.isExtensible = true →
          behind.head? ≠ relation.symbol.toList.head? := by
        rintro rfl extensible next
        refine whole ⟨relation, extensible, ?_, ?_, ?_, ?_, next⟩
        · rw [scanned, scan_nil]
          exact (mode_endWord lexer).trans normal
        · rw [scanned, scan_nil]
          exact addRelation_noWord lexer relation
        · rw [scanned, scan_nil]
          exact List.getLast?_concat
        · obtain ⟨d, symbol, _⟩ := Relation.symbol_of_isExtensible extensible
          rw [shape, symbol]
          rfl
      have foundToo : lexer.relationAt? (c :: rest ++ behind) =
          some (relation, tail ++ behind) := by
        rw [relationAt?, if_pos normal]
        exact Relation.read?_append read apart
      rw [scan_of_relationAt? foundToo]
      apply induction
      intro cuts
      rw [shape] at scanned whole
      exact whole (cuts.append_left scanned)
  | case3 lexer c rest nothing induction =>
      rw [List.cons_append,
        scan_cons (relationAt?_cons_eq_none nothing (rest ++ behind))]
      apply induction
      intro cuts
      have scanned : lexer.scan ([c] ++ rest) = (lexer.scanChar c).scan rest :=
        scan_cons nothing
      exact whole (cuts.append_left scanned)

theorem not_cutsRelation {lexer : Lexer} {front : List Char} {c : Char}
    {behind : List Char} (ordinary : startsSymbol c = false) :
    ¬lexer.CutsRelation front (c :: behind) := by
  rintro ⟨relation, extensible, _, _, _, _, next⟩
  obtain ⟨d, shape, symbol⟩ := Relation.symbol_of_isExtensible extensible
  rw [shape] at next
  cases next
  rw [ordinary] at symbol
  cases symbol

theorem not_cutsRelation_concat {lexer : Lexer} {front : List Char} {c : Char}
    {behind : List Char} (ordinary : startsSymbol c = false) :
    ¬lexer.CutsRelation (front ++ [c]) behind := by
  rintro ⟨relation, extensible, _, _, _, last, _⟩
  obtain ⟨d, shape, symbol⟩ := Relation.symbol_of_isExtensible extensible
  rw [List.getLast?_concat, shape] at last
  cases last
  rw [ordinary] at symbol
  cases symbol

/-- The lexers go on in the same way: what was remembered before a backslash
counts only right behind it. -/
structure Alike (lexer other : Lexer) : Prop where
  mode : other.mode = lexer.mode
  tokens : other.tokens = lexer.tokens
  word : other.word = lexer.word
  inWord : other.inWord = lexer.inWord
  before : lexer.mode = .escaped →
    other.wordBeforeEscape = lexer.wordBeforeEscape

namespace Alike

variable {lexer other : Lexer}

theorem refl (lexer : Lexer) : lexer.Alike lexer :=
  ⟨rfl, rfl, rfl, rfl, fun _ => rfl⟩

theorem endWord (alike : lexer.Alike other) :
    lexer.endWord.Alike other.endWord := by
  obtain ⟨mode, tokens, word, inWord, before⟩ := alike
  unfold Lexer.endWord
  rw [inWord]
  split
  · exact ⟨mode, by rw [tokens, word], rfl, rfl, before⟩
  · exact ⟨mode, tokens, word, inWord, before⟩

theorem addRelation (alike : lexer.Alike other) (relation : Relation) :
    (lexer.addRelation relation).Alike (other.addRelation relation) := by
  obtain ⟨mode, tokens, word, inWord, before⟩ := alike.endWord
  exact ⟨mode, congrArg (· ++ [Token.relation relation]) tokens, word,
    inWord, before⟩

theorem push (alike : lexer.Alike other)
    (c : Char) : (lexer.push c).Alike (other.push c) :=
  ⟨alike.mode, alike.tokens, congrArg (·.push c) alike.word, rfl, alike.before⟩

theorem enter (alike : lexer.Alike other) {mode : LexerMode}
    (apart : mode ≠ .escaped) :
    Alike { lexer with mode } { other with mode } :=
  ⟨rfl, alike.tokens, alike.word, alike.inWord,
    fun escape => absurd escape apart⟩

theorem scanChar (alike : lexer.Alike other) (c : Char) :
    (lexer.scanChar c).Alike (other.scanChar c) := by
  unfold Lexer.scanChar
  rw [alike.mode]
  cases lexer.mode with
  | normal =>
      dsimp only
      split
      · exact alike.endWord
      · split
        · exact ⟨rfl, alike.tokens, alike.word, rfl, fun _ => alike.inWord⟩
        · split
          · exact ⟨rfl, alike.tokens, alike.word, rfl, nofun⟩
          · split
            · exact ⟨rfl, alike.tokens, alike.word, rfl, nofun⟩
            · split
              · exact (alike.push c).enter nofun
              · exact alike.push c
  | escaped => exact (alike.push c).enter nofun
  | singleQuote =>
      dsimp only
      split
      · exact alike.enter nofun
      · exact alike.push c
  | doubleQuote =>
      dsimp only
      split
      · exact alike.enter nofun
      · split
        · exact alike.enter nofun
        · exact alike.push c
  | doubleQuoteEscaped =>
      dsimp only
      split
      · exact (alike.push c).enter nofun
      · exact ((alike.push '\\').push c).enter nofun
  | backQuote =>
      dsimp only
      split
      · exact (alike.push c).enter nofun
      · exact alike.push c

theorem relationAt? (alike : lexer.Alike other) (text : List Char) :
    other.relationAt? text = lexer.relationAt? text := by
  unfold Lexer.relationAt?
  rw [alike.mode]

theorem scan (alike : lexer.Alike other) (text : List Char) :
    (lexer.scan text).Alike (other.scan text) := by
  fun_induction Lexer.scan lexer text generalizing other with
  | case1 lexer =>
      rw [scan_nil]
      exact alike
  | case2 lexer c rest relation behind found _ induction =>
      rw [scan_of_relationAt? ((alike.relationAt? (c :: rest)).trans found)]
      exact induction (alike.addRelation relation)
  | case3 lexer c rest nothing induction =>
      rw [scan_cons ((alike.relationAt? (c :: rest)).trans nothing)]
      exact induction (alike.scanChar c)

theorem endOfLine (alike : lexer.Alike other) :
    other.endOfLine.1 = lexer.endOfLine.1 ∧
    lexer.endOfLine.2.Alike other.endOfLine.2 := by
  unfold Lexer.endOfLine
  rw [alike.mode]
  cases here : lexer.mode with
  | normal =>
      have ended := alike.endWord
      dsimp only
      rw [ended.tokens]
      split
      · exact ⟨rfl, .refl fresh⟩
      · split
        · exact ⟨rfl, ended⟩
        · exact ⟨rfl, ended.mode, rfl, ended.word, ended.inWord, ended.before⟩
  | escaped =>
      exact ⟨rfl, rfl, alike.tokens, alike.word, alike.before here, nofun⟩
  | doubleQuoteEscaped => exact ⟨rfl, alike.enter nofun⟩
  | singleQuote | doubleQuote | backQuote => exact ⟨rfl, alike.push '\n'⟩

theorem feed (alike : lexer.Alike other) (line : String) :
    (other.feed line).1 = (lexer.feed line).1 ∧
      (lexer.feed line).2.Alike (other.feed line).2 :=
  (alike.scan line.toList).endOfLine

end Alike

end Lexer

def LexerMode.isEscape : LexerMode → Bool
  | escaped | doubleQuoteEscaped => true
  | _ => false

namespace Lexer

/-- The lines are fed one after the other; each of them asks for more, and none
ends in a backslash that escapes. -/
inductive StaysOpen : Lexer → List String → Lexer → Prop where
  | nil {lexer : Lexer} : StaysOpen lexer [] lexer
  | cons {lexer last : Lexer} {line : String} {lines : List String}
      (more : (lexer.feed line).1 = .ok .needsMore)
      (unescaped : (lexer.scan line.toList).mode.isEscape = false)
      (rest : StaysOpen (lexer.feed line).2 lines last) :
        StaysOpen lexer (line :: lines) last

/-- A line that asks for more leaves the lexer behind its line break. -/
theorem endOfLine_of_needsMore {lexer : Lexer}
    (more : lexer.endOfLine.1 = .ok .needsMore)
    (unescaped : lexer.mode.isEscape = false) :
    lexer.endOfLine.2 = lexer.scanChar '\n' := by
  cases here : lexer.mode with
  | normal =>
      rw [scanChar_blank here rfl]
      rw [endOfLine, here] at more ⊢
      dsimp only at more ⊢
      split at more
      · cases more
      · split at more
        · next awaits => rw [if_pos awaits]
        · cases more
  | escaped | doubleQuoteEscaped =>
      rw [here] at unescaped
      cases unescaped
  | singleQuote | doubleQuote | backQuote =>
      rw [endOfLine, scanChar, here]
      rfl

theorem feed_of_needsMore {lexer : Lexer} {line : String}
    (more : (lexer.feed line).1 = .ok .needsMore)
    (unescaped : (lexer.scan line.toList).mode.isEscape = false) :
    (lexer.feed line).2 = lexer.scan (line.toList ++ ['\n']) := by
  have ordinary : startsSymbol '\n' = false := rfl
  rw [scan_append (not_cutsRelation ordinary),
    scan_cons_of_ordinary _ ordinary, scan_nil]
  exact endOfLine_of_needsMore more unescaped

def brokenText (lines : List String) : List Char :=
  lines.flatMap fun line => line.toList ++ ['\n']

theorem not_cutsRelation_brokenText (lexer : Lexer) (lines : List String)
    (behind : List Char) : ¬lexer.CutsRelation (brokenText lines) behind := by
  rcases List.eq_nil_or_concat lines with rfl | ⟨front, line, rfl⟩
  · rintro ⟨relation, extensible, _, _, _, last, _⟩
    obtain ⟨c, shape, _⟩ := Relation.symbol_of_isExtensible extensible
    rw [shape] at last
    cases last
  · have shape : brokenText (front.concat line) =
        brokenText front ++ line.toList ++ ['\n'] := by
      simp [brokenText]
    rw [shape]
    exact not_cutsRelation_concat rfl

theorem StaysOpen.eq_scan {lexer last : Lexer} {lines : List String}
    (open_ : lexer.StaysOpen lines last) :
    last = lexer.scan (brokenText lines) := by
  induction open_ with
  | nil => exact (scan_nil _).symm
  | @cons lexer last line lines more unescaped rest induction =>
      have first :
          ¬lexer.CutsRelation (line.toList ++ ['\n']) (brokenText lines) :=
        not_cutsRelation_concat rfl
      rw [induction, feed_of_needsMore more unescaped, ← scan_append first]
      rfl

theorem toList_intercalate_break (lines : List String) (line : String) :
    ("\n".intercalate (lines ++ [line])).toList =
      brokenText lines ++ line.toList := by
  rw [String.toList_intercalate]
  induction lines with
  | nil => exact List.intercalate_singleton
  | cons first lines induction =>
      have more : (lines ++ [line]).map String.toList ≠ [] := by simp
      rw [List.cons_append, List.map_cons,
        List.intercalate_cons_of_ne_nil more, induction, ← List.append_assoc]
      rfl

theorem StaysOpen.feed_eq {lexer last : Lexer} {lines : List String}
    (open_ : lexer.StaysOpen lines last) (line : String) :
    last.feed line = lexer.feed ("\n".intercalate (lines ++ [line])) := by
  have whole := not_cutsRelation_brokenText lexer lines line.toList
  rw [feed, feed, toList_intercalate_break, scan_append whole, ← open_.eq_scan]

/-- What calls make of a fresh lexer. -/
inductive Reachable : Lexer → Prop where
  | fresh : Reachable fresh
  | feed {lexer : Lexer} (reachable : Reachable lexer) (line : String) :
      Reachable (lexer.feed line).2
  | finish {lexer : Lexer} (reachable : Reachable lexer) :
      Reachable lexer.finish.2

/-- The lexer waits for the first line of a command. -/
structure IsIdle (lexer : Lexer) : Prop where
  normal : lexer.mode = .normal
  noTokens : lexer.tokens = []
  noWord : lexer.inWord = false

/-- Only a word that is being read has characters. -/
structure KeepsWord (lexer : Lexer) : Prop where
  noWord : lexer.inWord = false → lexer.word = ""
  beforeEscape : lexer.mode = .escaped → lexer.wordBeforeEscape = false →
    lexer.word = ""

namespace KeepsWord

variable {lexer : Lexer}

theorem of_inWord (inWord : lexer.inWord = true)
    (apart : lexer.mode ≠ .escaped) :
    lexer.KeepsWord where
  noWord := fun noWord => by simp [inWord] at noWord
  beforeEscape := fun escape => absurd escape apart

theorem endWord (keeps : lexer.KeepsWord) (normal : lexer.mode = .normal) :
    lexer.endWord.KeepsWord := by
  have apart : lexer.endWord.mode ≠ .escaped := by simp [mode_endWord, normal]
  refine ⟨fun _ => ?_, fun escape => absurd escape apart⟩
  unfold Lexer.endWord
  split
  · rfl
  · next noWord => exact keeps.noWord (by simpa using noWord)

theorem addRelation (keeps : lexer.KeepsWord) (normal : lexer.mode = .normal)
    (relation : Relation) : (lexer.addRelation relation).KeepsWord :=
  ⟨(keeps.endWord normal).noWord, (keeps.endWord normal).beforeEscape⟩

theorem scanChar (keeps : lexer.KeepsWord)
    (c : Char) : (lexer.scanChar c).KeepsWord := by
  unfold Lexer.scanChar
  cases here : lexer.mode with
  | normal =>
      have apart : lexer.mode ≠ .escaped := by simp [here]
      dsimp only
      split
      · exact keeps.endWord here
      · split
        · exact ⟨nofun, fun _ noWord => keeps.noWord noWord⟩
        · split
          · exact of_inWord rfl nofun
          · split
            · exact of_inWord rfl nofun
            · split
              · exact of_inWord rfl nofun
              · exact of_inWord rfl apart
  | escaped => exact of_inWord rfl nofun
  | singleQuote =>
      have apart : lexer.mode ≠ .escaped := by simp [here]
      dsimp only
      split
      · exact ⟨keeps.noWord, nofun⟩
      · exact of_inWord rfl apart
  | doubleQuote =>
      have apart : lexer.mode ≠ .escaped := by simp [here]
      dsimp only
      split
      · exact ⟨keeps.noWord, nofun⟩
      · split
        · exact ⟨keeps.noWord, nofun⟩
        · exact of_inWord rfl apart
  | doubleQuoteEscaped => exact of_inWord rfl nofun
  | backQuote =>
      have apart : lexer.mode ≠ .escaped := by simp [here]
      dsimp only
      split
      · exact of_inWord rfl nofun
      · exact of_inWord rfl apart

theorem scan (keeps : lexer.KeepsWord)
    (text : List Char) : (lexer.scan text).KeepsWord := by
  fun_induction Lexer.scan lexer text with
  | case1 lexer => exact keeps
  | case2 lexer c rest relation behind found _ induction =>
      exact induction (keeps.addRelation
        (read?_of_relationAt? found).1 relation)
  | case3 lexer c rest _ induction => exact induction (keeps.scanChar c)

theorem fresh : Lexer.fresh.KeepsWord :=
  ⟨fun _ => rfl, nofun⟩

theorem endOfLine (keeps : lexer.KeepsWord) : lexer.endOfLine.2.KeepsWord := by
  unfold Lexer.endOfLine
  cases here : lexer.mode with
  | normal =>
      have ended := keeps.endWord here
      dsimp only
      split
      · exact fresh
      · split
        · exact ended
        · exact ⟨ended.noWord, ended.beforeEscape⟩
  | escaped => exact ⟨keeps.beforeEscape here, nofun⟩
  | doubleQuoteEscaped => exact ⟨keeps.noWord, nofun⟩
  | singleQuote | doubleQuote | backQuote =>
      exact of_inWord rfl (by simp [push, here])

end KeepsWord

theorem Reachable.keepsWord {lexer : Lexer}
    (reachable : Reachable lexer) : lexer.KeepsWord := by
  induction reachable with
  | fresh => exact .fresh
  | feed _ line keeps => exact (keeps.scan line.toList).endOfLine
  | finish _ _ => exact .fresh

theorem IsIdle.alike_fresh {lexer : Lexer} (idle : lexer.IsIdle)
    (reachable : Reachable lexer) :
    fresh.Alike lexer where
  mode := idle.normal
  tokens := idle.noTokens
  word := reachable.keepsWord.noWord idle.noWord
  inWord := idle.noWord
  before := nofun

/-- Lines that are fed one after the other to an idle lexer give what they give
as one text with breaks between them. -/
theorem feed_eq_feed_intercalate {lexer last : Lexer} {lines : List String}
    (reachable : Reachable lexer) (idle : lexer.IsIdle)
    (open_ : lexer.StaysOpen lines last) (line : String) :
    (last.feed line).1 =
      (fresh.feed ("\n".intercalate (lines ++ [line]))).1 := by
  rw [open_.feed_eq]
  exact ((idle.alike_fresh reachable).feed _).1

theorem feed_quoteAndPipe :
    ∃ last,
      ((fresh.feed "ls").2).StaysOpen ["echo 'a", "b' \"c |", "`d",
        "` \" ||"] last ∧
      (last.feed "e &&  &").1 =
        (fresh.feed "echo 'a\nb' \"c |\n`d\n` \" ||\ne &&  &").1 := by
  have reachable : Reachable (fresh.feed "ls").2 := .feed .fresh "ls"
  have idle : ((fresh.feed "ls").2).IsIdle := by
    constructor <;> cbv
  have open_ :
      ((fresh.feed "ls").2).StaysOpen ["echo 'a", "b' \"c |", "`d",
        "` \" ||"] _ :=
    .cons (by cbv) (by cbv) (.cons (by cbv) (by cbv) (.cons (by cbv) (by cbv)
      (.cons (by cbv) (by cbv) .nil)))
  exact ⟨_, open_, feed_eq_feed_intercalate reachable idle open_ "e &&  &"⟩

theorem scan_backslash {lexer : Lexer}
    (standing : lexer.mode = .normal ∨ lexer.mode = .doubleQuote) :
    (lexer.scanChar '\\').endOfLine.1 = .ok .needsMore ∧
      lexer.Alike (lexer.scanChar '\\').endOfLine.2 := by
  rcases standing with normal | quoted
  · have escape : lexer.scanChar '\\' =
        { lexer with
          wordBeforeEscape := lexer.inWord, inWord := true,
          mode := .escaped } := by
      simp [scanChar, normal, isBlank]
    rw [escape]
    refine ⟨rfl, normal.symm, rfl, rfl, rfl, fun escaped => ?_⟩
    rw [normal] at escaped
    cases escaped
  · have escape : lexer.scanChar '\\' =
        { lexer with mode := .doubleQuoteEscaped } := by
      simp [scanChar, quoted]
    rw [escape]
    exact ⟨rfl, quoted.symm, rfl, rfl, rfl, fun _ => rfl⟩

theorem feed_backslash {lexer : Lexer} {front : String}
    (standing : (lexer.scan front.toList).mode = .normal ∨
      (lexer.scan front.toList).mode = .doubleQuote) :
    (lexer.feed (front.push '\\')).1 = .ok .needsMore ∧
      (lexer.scan front.toList).Alike (lexer.feed (front.push '\\')).2 := by
  have ordinary : startsSymbol '\\' = false := rfl
  rw [feed, String.toList_push, scan_append (not_cutsRelation ordinary),
    scan_cons_of_ordinary _ ordinary, scan_nil]
  exact scan_backslash standing

/-- Behind a backslash the next line goes on as if there were no break.  Only a
cut through a relation shows: its two parts are relations of their own, as they
are with a blank between them. -/
theorem feed_of_backslash {lexer : Lexer} {front : String}
    (standing : (lexer.scan front.toList).mode = .normal ∨
      (lexer.scan front.toList).mode = .doubleQuote) (behind : String) :
    (lexer.feed (front.push '\\')).1 = .ok .needsMore ∧
      (¬lexer.CutsRelation front.toList behind.toList →
        ((lexer.feed (front.push '\\')).2.feed behind).1 =
          (lexer.feed (front ++ behind)).1) ∧
      (lexer.CutsRelation front.toList behind.toList →
        ((lexer.feed (front.push '\\')).2.feed behind).1 =
          (lexer.feed (front ++ " " ++ behind)).1) := by
  obtain ⟨more, alike⟩ := feed_backslash standing
  have second : ((lexer.feed (front.push '\\')).2.feed behind).1 =
      ((lexer.scan front.toList).feed behind).1 := (alike.feed behind).1
  refine ⟨more, fun whole => ?_, fun cuts => ?_⟩
  · rw [second, feed, feed, String.toList_append, scan_append whole]
  · obtain ⟨_, _, normal, noWord, _⟩ := cuts
    have ended : (lexer.scan front.toList).endWord =
        lexer.scan front.toList := by
      simp [endWord, noWord]
    have blank : startsSymbol ' ' = false := rfl
    rw [second, feed, feed, String.toList_append, String.toList_append,
      List.append_assoc]
    change _ = (lexer.scan (front.toList ++ ' ' :: behind.toList)).endOfLine.1
    rw [scan_append (not_cutsRelation blank), scan_cons_of_ordinary _ blank,
      scanChar_blank normal rfl, ended]

theorem feed_of_backslash_nextToRelation :
    (fresh.feed "a >>\\").1 = .ok .needsMore ∧
      ((fresh.feed "a >>\\").2.feed "> b").1 = (fresh.feed "a >>> b").1 ∧
      ((fresh.feed "a |\\").2.feed "| b").1 = (fresh.feed "a | | b").1 := by
  have behindAppend : (fresh.scan "a >>".toList).mode = .normal := by cbv
  have behindPipe : (fresh.scan "a |".toList).mode = .normal := by cbv
  have whole : ¬fresh.CutsRelation "a >>".toList "> b".toList := by
    rintro ⟨relation, extensible, _, _, last, _⟩
    have append : (fresh.scan "a >>".toList).tokens.getLast? =
        some (.relation .redirectAppend) := by cbv
    rw [append] at last
    cases last
    cases extensible
  have cuts : fresh.CutsRelation "a |".toList "| b".toList :=
    ⟨.pipe, rfl, behindPipe, by cbv, by cbv, by decide, by decide⟩
  obtain ⟨more, joined, _⟩ := feed_of_backslash (.inl behindAppend) "> b"
  obtain ⟨_, _, apart⟩ := feed_of_backslash (.inl behindPipe) "| b"
  exact ⟨more, joined whole, apart cuts⟩

/-- A relation that is cut by a backslash is not read as if it had been typed in
one line. -/
theorem not_feed_of_backslash_cutAnd :
    ¬∀ front behind : String,
      ((fresh.scan front.toList).mode = .normal ∨
        (fresh.scan front.toList).mode = .doubleQuote) →
        ((fresh.feed (front.push '\\')).2.feed behind).1 =
          (fresh.feed (front ++ behind)).1 := by
  intro invisible
  have same := invisible "a &" "& b" (.inl (by cbv))
  have apart : ((fresh.feed ("a &".push '\\')).2.feed "& b").1 =
      .error (.unexpected .background) := by cbv
  have joined : (fresh.feed ("a &" ++ "& b")).1 =
      .ok (.complete [.word "a", .relation .and, .word "b"]) := by cbv
  rw [apart, joined] at same
  cases same

end Lexer

end JobShell
