import JobShell.Completion.Context
import JobShell.Proofs.Line.Idle
import JobShell.Proofs.Line.Spelling

/-!
# The word at the cursor and the lexer

The word to complete is found from the cursor backwards, and the lexer reads
from the start of the line forwards.  In text without backslashes and quotes
both find the same word.  What stands in front of it ends in the same way for
both: the last character that is not blank belongs to the last token, and a run
of operator characters, however the lexer parts it, ends in the relation whose
symbol has the last of them.
-/

namespace JobShell

namespace Relation

variable {relation : Relation} {c : Char}

/-- A redirection is known by the last character of its symbol. -/
theorem isRedirect_of_getLast?
    (last : relation.symbol.toList.getLast? = some c) :
    relation.isRedirect = (c == '>' || c == '<') := by
  cases relation <;> cases last <;> rfl

/-- Behind every relation but a redirection a command begins. -/
theorem isJoin_or_background (relation : Relation) :
    (relation.isJoin || relation == .background) = !relation.isRedirect := by
  cases relation <;> rfl

theorem symbol_of_ofSymbol? {symbol : String}
    (found : ofSymbol? symbol = some relation) :
    relation.symbol = symbol := by
  simpa using List.find?_some found

theorem startsSymbol_of_getLast?
    (last : relation.symbol.toList.getLast? = some c) :
    startsSymbol c = true := by
  cases relation <;> cases last <;> rfl

theorem exists_ofSymbol?_singleton (symbol : startsSymbol c = true) :
    ∃ relation, ofSymbol? (String.ofList [c]) = some relation := by
  simp only [startsSymbol, Bool.or_eq_true, beq_iff_eq] at symbol
  rcases symbol with (((rfl | rfl) | rfl) | rfl) | rfl
  · exact ⟨.redirectOut, by decide⟩
  · exact ⟨.redirectIn, by decide⟩
  · exact ⟨.semi, by decide⟩
  · exact ⟨.pipe, by decide⟩
  · exact ⟨.background, by decide⟩

end Relation

/-- The token can end with this character, where nothing is quoted. -/
def Token.ClosesWith : Token → Char → Prop
  | .word _, c => startsSymbol c = false
  | .relation r, c => r.symbol.toList.getLast? = some c

/-- Nothing in the text hides a character from the lexer. -/
def IsPlain (text : List Char) : Prop :=
  ∀ c ∈ text, c ∉ ['\\', '\x27', '\x22', '\x60']

instance (text : List Char) : Decidable (IsPlain text) :=
  List.decidableBAll _ text

theorem IsPlain.append_iff {front behind : List Char} :
    IsPlain (front ++ behind) ↔ IsPlain front ∧ IsPlain behind :=
  List.forall_mem_append

theorem IsPlain.tail {c : Char} {rest : List Char}
    (plain : IsPlain (c :: rest)) :
    IsPlain rest :=
  fun d member => plain d (List.mem_cons_of_mem c member)

namespace Lexer

variable {lexer : Lexer} {c : Char} {text : List Char}

theorem scanChar_plain (normal : lexer.mode = .normal)
    (plain : c ∉ ['\\', '\x27', '\x22', '\x60']) :
    lexer.scanChar c = if isBlank c then lexer.endWord else lexer.push c := by
  simp only [List.mem_cons, List.not_mem_nil, or_false, not_or] at plain
  obtain ⟨noBackslash, noSingle, noDouble, noBack⟩ := plain
  rw [scanChar, normal]
  dsimp only
  rw [if_neg noBackslash, if_neg noSingle, if_neg noDouble, if_neg noBack]

theorem mode_scanChar_plain (normal : lexer.mode = .normal)
    (plain : c ∉ ['\\', '\x27', '\x22', '\x60']) :
    (lexer.scanChar c).mode = .normal := by
  rw [scanChar_plain normal plain]
  split
  · exact (mode_endWord lexer).trans normal
  · exact normal

theorem mode_addRelation (relation : Relation) :
    (lexer.addRelation relation).mode = lexer.mode :=
  mode_endWord lexer

theorem mode_scan_plain (normal : lexer.mode = .normal) (plain : IsPlain text) :
    (lexer.scan text).mode = .normal := by
  fun_induction scan lexer text with
  | case1 lexer => exact normal
  | case2 lexer c rest relation behind found _ induction =>
      apply induction ((mode_addRelation relation).trans normal)
      rw [Relation.text_of_read? (read?_of_relationAt? found).2] at plain
      exact (IsPlain.append_iff.mp plain).2
  | case3 lexer c rest _ induction =>
      exact induction (mode_scanChar_plain normal (plain c List.mem_cons_self))
        plain.tail

/-- Behind an operator character the lexer has just read a relation with this
last character. -/
theorem scan_endsInSymbol (normal : lexer.mode = .normal) (plain : IsPlain text)
    (last : text.getLast? = some c) (symbol : startsSymbol c = true) :
    (lexer.scan text).inWord = false ∧
      ∃ relation,
        (lexer.scan text).tokens.getLast? = some (.relation relation) ∧
        relation.symbol.toList.getLast? = some c := by
  -- On the way of the lexer; what matters is the relation that is read last.
  fun_induction scan lexer text with
  | case1 lexer => cases last
  | case2 lexer d rest relation behind found _ induction =>
      have shape := Relation.text_of_read? (read?_of_relationAt? found).2
      rw [shape] at plain last
      cases behind with
      | nil =>
          rw [List.append_nil] at last
          rw [scan_nil]
          exact ⟨addRelation_noWord lexer relation, relation,
            List.getLast?_concat, last⟩
      | cons e behind =>
          rw [List.getLast?_append_of_ne_nil _ (List.cons_ne_nil e behind)]
            at last
          exact induction ((mode_addRelation relation).trans normal)
            (IsPlain.append_iff.mp plain).2 last
  | case3 lexer d rest nothing induction =>
      cases rest with
      | nil =>
          obtain rfl : d = c := by simpa using last
          obtain ⟨relation, behind, found⟩ := Relation.exists_read? symbol []
          rw [relationAt?, if_pos normal, found] at nothing
          cases nothing
      | cons e rest =>
          rw [List.getLast?_cons_cons] at last
          exact induction (mode_scanChar_plain normal
            (plain d List.mem_cons_self)) plain.tail last

/-- An ordinary character at the end of a text is read by itself. -/
theorem scan_concat_ordinary (lexer : Lexer) (text : List Char)
    (ordinary : startsSymbol c = false) :
    lexer.scan (text ++ [c]) = (lexer.scan text).scanChar c := by
  simp [scan_append (not_cutsRelation ordinary),
    scan_cons_of_ordinary _ ordinary]

theorem endWord_scan_blank (normal : lexer.mode = .normal)
    (blank : ∀ c ∈ text, isBlank c = true) :
    (lexer.scan text).endWord = lexer.endWord := by
  induction text generalizing lexer with
  | nil => simp
  | cons c rest induction =>
      have here : isBlank c = true := blank c List.mem_cons_self
      rw [scan_cons_of_ordinary _ (startsSymbol_of_isBlank here),
        scanChar_blank normal here,
        induction ((mode_endWord lexer).trans normal)
          fun d member => blank d (List.mem_cons_of_mem c member),
        endWord_endWord]

end Lexer

theorem Text.exists_append_trimEnd (text : List Char) :
    ∃ blanks, text = trimEnd text ++ blanks ∧ ∀ c ∈ blanks,
      isBlank c = true := by
  refine ⟨(text.reverse.takeWhile isBlank).reverse, ?_, ?_⟩
  · rw [trimEnd, ← List.reverse_append, List.takeWhile_append_dropWhile,
      List.reverse_reverse]
  · intro c member
    exact List.all_eq_true.mp List.all_takeWhile c (List.mem_reverse.mp member)

theorem IsPlain.trimEnd {text : List Char} (plain : IsPlain text) :
    IsPlain (Text.trimEnd text) := by
  obtain ⟨blanks, shape, _⟩ := Text.exists_append_trimEnd text
  rw [shape] at plain
  exact (IsPlain.append_iff.mp plain).1

theorem Text.not_isBlank_of_getLast?_trimEnd {text : List Char} {c : Char}
    (last : (trimEnd text).getLast? = some c) : isBlank c = false := by
  rw [trimEnd, List.getLast?_reverse] at last
  have stopped := List.head?_dropWhile_not isBlank text.reverse
  simpa [last] using stopped

namespace Lexer

variable {lexer : Lexer} {c : Char} {text : List Char}

theorem not_cutsRelation_nil : ¬lexer.CutsRelation text [] := by
  rintro ⟨relation, extensible, _, _, _, _, next⟩
  obtain ⟨d, shape, symbol⟩ := Relation.symbol_of_isExtensible extensible
  rw [shape] at next
  cases next

theorem endWord_scan_trimEnd (normal : lexer.mode = .normal)
    (plain : IsPlain text) :
    (lexer.scan text).endWord = (lexer.scan (Text.trimEnd text)).endWord := by
  obtain ⟨blanks, shape, blank⟩ := Text.exists_append_trimEnd text
  have whole : ¬lexer.CutsRelation (Text.trimEnd text) blanks := by
    cases blanks with
    | nil => exact not_cutsRelation_nil
    | cons d blanks =>
        exact not_cutsRelation
          (startsSymbol_of_isBlank (blank d List.mem_cons_self))
  conv_lhs => rw [shape, scan_append whole]
  exact endWord_scan_blank (mode_scan_plain normal plain.trimEnd) blank

/-- The last character that is not blank is one of the last token. -/
theorem exists_closesWith (normal : lexer.mode = .normal) (plain : IsPlain text)
    (last : (Text.trimEnd text).getLast? = some c) :
    ∃ token, (lexer.scan text).endWord.tokens.getLast? = some token ∧
      token.ClosesWith c := by
  have plainFront : IsPlain (Text.trimEnd text) := plain.trimEnd
  -- Blanks end the last word and do no more, so they may be left away.
  rw [endWord_scan_trimEnd normal plain]
  cases symbol : startsSymbol c with
  | true =>
      obtain ⟨noWord, relation, tokens, closes⟩ :=
        scan_endsInSymbol normal plainFront last symbol
      refine ⟨.relation relation, ?_, closes⟩
      rw [endWord, if_neg (by simp [noWord]), tokens]
  | false =>
      obtain ⟨front, ending⟩ := List.getLast?_eq_some_iff.mp last
      have visible := Text.not_isBlank_of_getLast?_trimEnd last
      rw [ending] at plainFront ⊢
      obtain ⟨plainBefore, plainLast⟩ := IsPlain.append_iff.mp plainFront
      refine ⟨.word ((lexer.scan front).word.push c), ?_, symbol⟩
      rw [scan_concat_ordinary lexer front symbol,
        scanChar_plain (mode_scan_plain normal plainBefore)
          (plainLast c List.mem_cons_self),
        if_neg (by simp [visible]), push, endWord, if_pos rfl]
      exact List.getLast?_concat

/-- Behind a character that ends words no word is held. -/
theorem inWord_scan_of_endsWord (normal : lexer.mode = .normal)
    (plain : IsPlain text) (last : text.getLast? = some c)
    (ends : CursorContext.endsWord c = true) :
    (lexer.scan text).inWord = false := by
  rw [CursorContext.endsWord, Bool.or_eq_true] at ends
  rcases ends with blank | symbol
  · obtain ⟨front, rfl⟩ := List.getLast?_eq_some_iff.mp last
    have normalBefore := mode_scan_plain normal (IsPlain.append_iff.mp plain).1
    rw [scan_concat_ordinary lexer front (startsSymbol_of_isBlank blank),
      scanChar_blank normalBefore blank, inWord_endWord]
  · exact (scan_endsInSymbol normal plain last symbol).1

theorem piece_of_goesOn (plain : c ∉ ['\\', '\x27', '\x22', '\x60'])
    (goesOn : CursorContext.endsWord c = false) : Piece [c] [c] := by
  rw [CursorContext.endsWord, Bool.or_eq_false_iff] at goesOn
  obtain ⟨visible, noSymbol⟩ := goesOn
  simp only [startsSymbol, Bool.or_eq_false_iff,
    beq_eq_false_iff_ne] at noSymbol
  exact .plain visible (by simp_all)

/-- A word that nothing ends is held as it stands. -/
theorem scan_held {read : List Token} (between : lexer.IsBetween read)
    {word : List Char} (plain : IsPlain word)
    (goesOn : ∀ c ∈ word, CursorContext.endsWord c = false) :
    (lexer.scan word).word = String.ofList word ∧
    (lexer.scan word).inWord = !word.isEmpty ∧
      (lexer.scan word).tokens = read := by
  cases word with
  | nil =>
      rw [scan_nil]
      exact ⟨between.word, between.noWord, between.tokens⟩
  | cons c rest =>
      have spelled : WordSpelling (c :: rest) (c :: rest) :=
        wordSpelling_plain (List.cons_ne_nil c rest)
          fun d member => piece_of_goesOn (plain d member) (goesOn d member)
      obtain ⟨before, held⟩ := scan_word spelled between.normal
      have here := held []
      rw [List.append_nil, scan_nil] at here
      rw [here]
      refine ⟨?_, rfl, between.tokens⟩
      rw [reading, between.word, String.empty_append]

/-- Text in front of the word at the cursor leaves the lexer between two
words. -/
theorem isBetween_scan_beforeLastWord
    (plain : IsPlain (CursorContext.beforeLastWord text)) :
    (fresh.scan (CursorContext.beforeLastWord text)).IsBetween
      (fresh.scan (CursorContext.beforeLastWord text)).tokens := by
  have noWord :
      (fresh.scan (CursorContext.beforeLastWord text)).inWord = false := by
    cases last : (CursorContext.beforeLastWord text).getLast? with
    | none =>
        rw [List.getLast?_eq_none_iff.mp last, scan_nil]
        rfl
    | some c =>
        exact inWord_scan_of_endsWord rfl plain last
          (CursorContext.endsWord_of_getLast?_beforeLastWord last)
  exact ⟨mode_scan_plain rfl plain, rfl, noWord,
    (KeepsWord.fresh.scan _).noWord noWord⟩

theorem scan_beforeLastWord_append (lexer : Lexer) (text : List Char) :
    lexer.scan text =
      (lexer.scan (CursorContext.beforeLastWord text)).scan
        (CursorContext.lastWord text) := by
  have whole : ¬lexer.CutsRelation (CursorContext.beforeLastWord text)
      (CursorContext.lastWord text) := by
    cases shape : CursorContext.lastWord text with
    | nil => exact not_cutsRelation_nil
    | cons c rest =>
        have member : c ∈ CursorContext.lastWord text :=
          shape ▸ List.mem_cons_self
        have goesOn := CursorContext.not_endsWord_of_mem_lastWord member
        exact not_cutsRelation (Bool.or_eq_false_iff.mp goesOn).2
  rw [← scan_append whole, CursorContext.beforeLastWord_append_lastWord]

end Lexer

/-- The word behind these tokens is the first one of a command. -/
def Token.PrecedeProgram (tokens : List Token) : Prop :=
  tokens = [] ∨
    ∃ relation,
      tokens.getLast? = some (.relation relation) ∧ relation.isRedirect = false

namespace CursorContext

variable {text typed before : List Char} {c : Char}

theorem trailingRelation?_ordinary (last : text.getLast? = some c)
    (ordinary : startsSymbol c = false) : trailingRelation? text = none := by
  obtain ⟨front, rfl⟩ := List.getLast?_eq_some_iff.mp last
  have noSymbol : (front ++ [c]).reverse.takeWhile startsSymbol = [] := by
    rw [List.reverse_append, List.reverse_singleton, List.singleton_append,
      List.takeWhile_cons_of_neg (by simp [ordinary])]
  rw [trailingRelation?, noSymbol]
  rfl

/-- Whether the run of operator characters is a symbol by itself or not, the
relation has the last character of the run. -/
theorem exists_trailingRelation? (last : text.getLast? = some c)
    (symbol : startsSymbol c = true) :
    ∃ relation, trailingRelation? text = some relation ∧
      relation.symbol.toList.getLast? = some c := by
  obtain ⟨front, rfl⟩ := List.getLast?_eq_some_iff.mp last
  have run : ((front ++ [c]).reverse.takeWhile startsSymbol).reverse =
      (front.reverse.takeWhile startsSymbol).reverse ++ [c] := by
    rw [List.reverse_append, List.reverse_singleton, List.singleton_append,
      List.takeWhile_cons_of_pos symbol, List.reverse_cons]
  rw [trailingRelation?, run]
  cases whole : Relation.ofSymbol?
      (String.ofList
        ((front.reverse.takeWhile startsSymbol).reverse ++ [c])) with
  | some relation =>
      refine ⟨relation, rfl, ?_⟩
      rw [Relation.symbol_of_ofSymbol? whole, String.toList_ofList,
        List.getLast?_concat]
  | none =>
      obtain ⟨relation, single⟩ := Relation.exists_ofSymbol?_singleton symbol
      refine ⟨relation, ?_, ?_⟩
      · rw [Option.none_or, List.getLast?_concat, Option.bind_some, single]
      · rw [Relation.symbol_of_ofSymbol? single, String.toList_ofList,
          List.getLast?_singleton]

/-- A command begins where the lexer, having read what stands in front, would
take the next word for its program. -/
theorem startsCommand_iff (plain : IsPlain before) :
    startsCommand before = true ↔
      Token.PrecedeProgram (Lexer.fresh.scan before).endWord.tokens := by
  cases last : (Text.trimEnd before).getLast? with
  | none =>
      have nothing : Text.trimEnd before = [] :=
        List.getLast?_eq_none_iff.mp last
      have noTokens : (Lexer.fresh.scan before).endWord.tokens = [] := by
        rw [Lexer.endWord_scan_trimEnd rfl plain, nothing, Lexer.scan_nil]
        rfl
      exact iff_of_true (by rw [startsCommand, nothing]; rfl) (.inl noTokens)
  | some c =>
      have something : (Text.trimEnd before).isEmpty = false := by
        rw [List.isEmpty_eq_false_iff]
        rintro nothing
        rw [nothing] at last
        cases last
      have normal : Lexer.fresh.mode = .normal := rfl
      obtain ⟨token, tokens, closes⟩ :=
        Lexer.exists_closesWith normal plain last
      have someTokens : (Lexer.fresh.scan before).endWord.tokens ≠ [] := by
        intro nothing
        rw [nothing] at tokens
        cases tokens
      rw [startsCommand, something, Bool.false_or, Token.PrecedeProgram, tokens]
      -- Both the relation at the end of the run and the one that was read have
      -- this last character, and it tells whether they are redirections.
      cases symbol : startsSymbol c with
      | false =>
          rw [trailingRelation?_ordinary last symbol]
          cases token with
          | word text => simp [someTokens]
          | relation relation =>
              rw [Relation.startsSymbol_of_getLast? closes] at symbol
              cases symbol
      | true =>
          obtain ⟨trailing, found, ends⟩ := exists_trailingRelation? last symbol
          rw [found]
          cases token with
          | word text => cases closes.symm.trans symbol
          | relation relation =>
              have same : trailing.isRedirect = relation.isRedirect :=
                (Relation.isRedirect_of_getLast? ends).trans
                  (Relation.isRedirect_of_getLast? closes).symm
              simp [someTokens, Relation.isJoin_or_background, same]

theorem categoriesOf_plain (noSigil : typed.head? ≠ some '$')
    (noSlash : '/' ∉ typed) :
    categoriesOf before typed =
      if startsCommand before then .onlyPrograms else .onlyHereNames := by
  have noVariable : namesVariable typed = false := by
    simp [namesVariable, noSigil]
  have noFile : typed.contains '/' = false := by simpa using noSlash
  rw [categoriesOf, noVariable, noFile]
  rfl

/-- At any position up to which nothing is quoted, the word to complete is the
one that the lexer holds there, and it begins where the lexer held none.  A
program is wanted exactly where the tokens in front of it are followed by one,
whatever the operator characters that stand together, and a name in the working
directory everywhere else. -/
theorem at?_agrees_with_scan {line : List Char} {position : Nat}
    {front behind : List Char}
    (cut : Text.cutAt? line (min position (Text.byteLength line)) =
      some (front, behind)) (plain : IsPlain front) :
    ∃ before context, at? line position = some context ∧
      front = before ++ context.typed ∧ context.start = Text.byteLength before ∧
      (Lexer.fresh.scan front).mode = .normal ∧
      (Lexer.fresh.scan front).word = String.ofList context.typed ∧
      (Lexer.fresh.scan front).inWord = !context.typed.isEmpty ∧
      (Lexer.fresh.scan before).inWord = false ∧
      (Lexer.fresh.scan front).tokens = (Lexer.fresh.scan before).tokens ∧
      (context.typed.head? ≠ some '$' → '/' ∉ context.typed →
        (context.categories = .onlyPrograms ↔
          Token.PrecedeProgram (Lexer.fresh.scan before).tokens) ∧
        (context.categories = .onlyHereNames ↔
          ¬Token.PrecedeProgram (Lexer.fresh.scan before).tokens)) := by
  have parts := plain
  rw [← beforeLastWord_append_lastWord front] at parts
  obtain ⟨plainBefore, plainTyped⟩ := IsPlain.append_iff.mp parts
  have between := Lexer.isBetween_scan_beforeLastWord plainBefore
  obtain ⟨word, inWord, tokens⟩ :=
    Lexer.scan_held between plainTyped fun c member =>
      not_endsWord_of_mem_lastWord member
  rw [← Lexer.scan_beforeLastWord_append] at word inWord tokens
  refine ⟨beforeLastWord front, _, by rw [at?, cut]; rfl,
    (beforeLastWord_append_lastWord front).symm, rfl,
    Lexer.mode_scan_plain rfl plain, word, inWord, between.noWord, tokens, ?_⟩
  intro noSigil noSlash
  have begins := startsCommand_iff plainBefore
  rw [between.endWord] at begins
  dsimp only
  rw [categoriesOf_plain noSigil noSlash, ← begins]
  cases startsCommand (beforeLastWord front) with
  | true => decide
  | false => decide

/-- A run of operator characters that is no symbol, and a blank character of
three bytes. -/
theorem at?_agrees_with_scan_mixedRun :
    Text.cutAt? "x>>|||\u3000né y".toList
      (min 12 (Text.byteLength "x>>|||\u3000né y".toList)) =
      some ("x>>|||\u3000né".toList, " y".toList) ∧
    IsPlain "x>>|||\u3000né".toList ∧
    at? "x>>|||\u3000né y".toList 12 =
      some { start := 9, typed := "né".toList, categories := .onlyPrograms } ∧
    (Lexer.fresh.scan "x>>|||\u3000né".toList).word = "né" ∧
    Token.PrecedeProgram (Lexer.fresh.scan "x>>|||\u3000".toList).tokens := by
  have cut : Text.cutAt? "x>>|||\u3000né y".toList
      (min 12 (Text.byteLength "x>>|||\u3000né y".toList)) =
        some ("x>>|||\u3000né".toList, " y".toList) := by decide
  have plain : IsPlain "x>>|||\u3000né".toList := by decide
  have here : at? "x>>|||\u3000né y".toList 12 =
      some { start := 9, typed := "né".toList,
             categories := .onlyPrograms } := by decide
  obtain ⟨before, context, found, shape, _, _, word, _, _, _, wanted⟩ :=
    at?_agrees_with_scan cut plain
  rw [here, Option.some.injEq] at found
  subst found
  have front : before = "x>>|||\u3000".toList :=
    (List.append_cancel_right shape).symm
  subst front
  exact ⟨cut, plain, here, word, (wanted (by decide) (by decide)).1.mp rfl⟩

end CursorContext

end JobShell
