import JobShell.Proofs.Line.Scanning

/-!
# Spellings of token lists

A text spells a list of tokens when it writes each relation by its symbol and
each word piece by piece, with white space where two tokens would otherwise run
into each other.  The lexer undoes every spelling.
-/

namespace JobShell

/-- Between double quotes, `text` stands for `meaning`. -/
inductive DoubleQuoted : List Char → List Char → Prop where
  | nil : DoubleQuoted [] []
  | plain {c : Char} {text meaning : List Char} (notEnd : c ≠ '\x22')
      (literal : c ≠ '\\') (rest : DoubleQuoted text meaning) :
        DoubleQuoted (c :: text) (c :: meaning)
  | escaped {c : Char} {text meaning : List Char}
      (special : c ∈ ['$', '\x60', '\x22', '\\'])
      (rest : DoubleQuoted text meaning) :
        DoubleQuoted ('\\' :: c :: text) (c :: meaning)
  | backslash {c : Char} {text meaning : List Char}
      (common : c ∉ ['$', '\x60', '\x22', '\\'])
      (rest : DoubleQuoted text meaning) :
      DoubleQuoted ('\\' :: c :: text) ('\\' :: c :: meaning)

/-- `text` is one piece of a word and stands for `meaning`. -/
inductive Piece : List Char → List Char → Prop where
  | plain {c : Char} (visible : isBlank c = false)
      (ordinary : c ∉ ['>', '<', ';', '|', '&', '\\', '\x27', '\x22', '\x60']) :
        Piece [c] [c]
  | escaped (c : Char) : Piece ['\\', c] [c]
  | singleQuoted {body : List Char} (closed : '\x27' ∉ body) :
      Piece ('\x27' :: (body ++ ['\x27'])) body
  | doubleQuoted {body meaning : List Char}
      (inside : DoubleQuoted body meaning) :
      Piece ('\x22' :: (body ++ ['\x22'])) meaning
  | backQuoted {body : List Char} (closed : '\x60' ∉ body) :
      Piece ('\x60' :: (body ++ ['\x60'])) ('\x60' :: (body ++ ['\x60']))

/-- Words are written in one piece or more. -/
inductive WordSpelling : List Char → List Char → Prop where
  | one {text meaning : List Char}
      (piece : Piece text meaning) : WordSpelling text meaning
  | more {text meaning rest restMeaning : List Char}
      (piece : Piece text meaning) (others : WordSpelling rest restMeaning) :
      WordSpelling (text ++ rest) (meaning ++ restMeaning)

inductive TokenSpelling : Token → List Char → Prop where
  | word {text meaning : List Char} (spelled : WordSpelling text meaning) :
      TokenSpelling (.word (String.ofList meaning)) text
  | relation (relation : Relation) :
      TokenSpelling (.relation relation) relation.symbol.toList

namespace Token

/-- Two tokens that can only be told apart with white space between them. -/
def RunsInto : Token → Token → Prop
  | word _, word _ => True
  | relation before, relation behind =>
    before.isExtensible = true ∧
      behind.symbol.toList.head? = before.symbol.toList.head?
  | _, _ => False

end Token

/-- `text` writes the tokens in order.  White space may stand in front of each
token, and at the end. -/
inductive Spelling : List Token → List Char → Prop where
  | nil {text : List Char} (blank : ∀ c ∈ text, isBlank c = true) :
      Spelling [] text
  | cons {token : Token} {tokens : List Token} {lead own rest : List Char}
      (blank : ∀ c ∈ lead, isBlank c = true) (spelled : TokenSpelling token own)
      (behind : Spelling tokens rest)
      (apart : ∀ next ∈ tokens.head?, token.RunsInto next →
        ∃ c ∈ rest.head?, isBlank c = true) :
      Spelling (token :: tokens) (lead ++ (own ++ rest))

namespace Spelling

variable {token : Token} {tokens : List Token} {own rest : List Char}

theorem empty : Spelling [] [] :=
  .nil (by simp)

theorem glued (spelled : TokenSpelling token own)
    (behind : Spelling tokens rest)
    (apart : ∀ next ∈ tokens.head?, token.RunsInto next →
      ∃ c ∈ rest.head?, isBlank c = true) :
    Spelling (token :: tokens) (own ++ rest) := by
  have blank : ∀ c ∈ ([] : List Char), isBlank c = true := by simp
  exact .cons blank spelled behind apart

theorem spaced (spelled : TokenSpelling token own)
    (behind : Spelling tokens rest)
    (apart : ∀ next ∈ tokens.head?, token.RunsInto next →
      ∃ c ∈ rest.head?, isBlank c = true) :
    Spelling (token :: tokens) (' ' :: (own ++ rest)) := by
  have blank : ∀ c ∈ [' '], isBlank c = true := by simp [isBlank]
  exact .cons blank spelled behind apart

theorem blank_cons {text : List Char} (spelling : Spelling tokens text) :
    Spelling tokens (' ' :: text) := by
  cases spelling with
  | nil blank => exact .nil (List.forall_mem_cons.2 ⟨rfl, blank⟩)
  | cons blank spelled behind apart =>
      exact .cons (List.forall_mem_cons.2 ⟨rfl, blank⟩) spelled behind apart

end Spelling

/-- Characters that need no quotes spell themselves. -/
theorem wordSpelling_plain {word : List Char} (nonempty : word ≠ [])
    (plain : ∀ c ∈ word, Piece [c] [c]) : WordSpelling word word := by
  induction word with
  | nil => exact absurd rfl nonempty
  | cons c rest induction =>
      have first : Piece [c] [c] := plain c List.mem_cons_self
      cases rest with
      | nil => exact .one first
      | cons d rest =>
          exact .more first (induction (List.cons_ne_nil d rest)
            fun e member => plain e (List.mem_cons_of_mem c member))

theorem Relation.startsSymbol_of_head {relation : Relation} {c : Char}
    (first : c ∈ relation.symbol.toList.head?) : startsSymbol c = true := by
  cases relation <;> cases first <;> rfl

theorem Piece.exists_head {text meaning : List Char}
    (piece : Piece text meaning) :
    ∃ c rest, text = c :: rest ∧ startsSymbol c = false := by
  cases piece with
  | @plain c _ ordinary =>
      refine ⟨c, [], rfl, ?_⟩
      simp_all [startsSymbol]
  | escaped c => exact ⟨_, _, rfl, rfl⟩
  | singleQuoted _ => exact ⟨_, _, rfl, rfl⟩
  | doubleQuoted _ => exact ⟨_, _, rfl, rfl⟩
  | backQuoted _ => exact ⟨_, _, rfl, rfl⟩

theorem WordSpelling.exists_head {text meaning : List Char}
    (spelled : WordSpelling text meaning) :
    ∃ c rest, text = c :: rest ∧ startsSymbol c = false := by
  cases spelled with
  | one piece => exact piece.exists_head
  | more piece _ =>
      obtain ⟨c, rest, rfl, ordinary⟩ := piece.exists_head
      exact ⟨c, _, rfl, ordinary⟩

/-- A spelling of `token` can begin with `c`. -/
def Token.OpensWith : Token → Char → Prop
  | .word _, c => startsSymbol c = false
  | .relation r, c => c ∈ r.symbol.toList.head?

theorem TokenSpelling.exists_head {token : Token} {text : List Char}
    (spelled : TokenSpelling token text) :
    ∃ c rest, text = c :: rest ∧ token.OpensWith c := by
  cases spelled with
  | word spelled =>
      obtain ⟨c, rest, shape, ordinary⟩ := spelled.exists_head
      exact ⟨c, rest, shape, ordinary⟩
  | relation relation =>
      obtain ⟨c, rest, shape⟩ :=
        List.exists_cons_of_length_pos relation.symbol_length_pos
      refine ⟨c, rest, shape, ?_⟩
      rw [Token.OpensWith, shape]
      rfl

theorem Spelling.head_cases {tokens : List Token} {text : List Char}
    (spelling : Spelling tokens text) {c : Char} (first : c ∈ text.head?) :
    isBlank c = true ∨ ∃ next ∈ tokens.head?, next.OpensWith c := by
  cases spelling with
  | nil blank => exact .inl (blank c (List.mem_of_mem_head? first))
  | @cons token _ lead _ _ blank spelled =>
      cases lead with
      | nil =>
          obtain ⟨d, rest, rfl, opens⟩ := spelled.exists_head
          cases first
          exact .inr ⟨token, rfl, opens⟩
      | cons d lead =>
          cases first
          exact .inl (blank c List.mem_cons_self)

namespace Lexer

theorem escapesInDoubleQuotes_iff (c : Char) :
    escapesInDoubleQuotes c = true ↔ c ∈ ['$', '\x60', '\x22', '\\'] := by
  simp [escapesInDoubleQuotes, or_assoc]

/-- The lexer after it has read `meaning` as a part of a word. -/
def reading (lexer : Lexer) (mode : LexerMode) (meaning : List Char)
    (before : Bool) : Lexer :=
  { lexer with
    mode := mode
    word := lexer.word ++ String.ofList meaning
    inWord := true
    wordBeforeEscape := before }

section Reading

variable (lexer : Lexer) (mode : LexerMode) (meaning : List Char)
  (before : Bool)

theorem push_reading (c : Char) :
    (lexer.reading mode meaning before).push c =
      lexer.reading mode (meaning ++ [c]) before := by
  simp [reading, push, String.ext_iff]

theorem reading_reading (inner : LexerMode) (restMeaning : List Char)
    (after : Bool) :
    (lexer.reading mode meaning before).reading inner restMeaning after =
      lexer.reading inner (meaning ++ restMeaning) after := by
  simp [reading, String.append_assoc]

variable {mode}

theorem scan_reading_cons (quoted : mode ≠ .normal) (c : Char)
    (rest : List Char) :
    (lexer.reading mode meaning before).scan (c :: rest) =
      ((lexer.reading mode meaning before).scanChar c).scan rest :=
  scan_cons_of_mode quoted c rest

theorem scan_reading_singleQuote {body : List Char} (closed : '\x27' ∉ body)
    (behind : List Char) :
    (lexer.reading .singleQuote meaning before).scan
      (body ++ '\x27' :: behind) =
      (lexer.reading .normal (meaning ++ body) before).scan behind := by
  have quoted : LexerMode.singleQuote ≠ .normal := by decide
  induction body generalizing meaning with
  | nil =>
      rw [List.nil_append, scan_reading_cons _ _ _ quoted, List.append_nil]
      rfl
  | cons c body induction =>
      rw [List.mem_cons, not_or] at closed
      have literal : (lexer.reading .singleQuote meaning before).scanChar c =
          (lexer.reading .singleQuote meaning before).push c :=
        if_neg (Ne.symm closed.1)
      rw [List.cons_append, scan_reading_cons _ _ _ quoted, literal,
        push_reading, induction _ closed.2, List.append_assoc,
        List.singleton_append]

theorem scan_reading_backQuote {body : List Char} (closed : '\x60' ∉ body)
    (behind : List Char) :
    (lexer.reading .backQuote meaning before).scan (body ++ '\x60' :: behind) =
      (lexer.reading .normal (meaning ++ (body ++ ['\x60'])) before).scan
        behind := by
  have quoted : LexerMode.backQuote ≠ .normal := by decide
  induction body generalizing meaning with
  | nil =>
      have last : (lexer.reading .backQuote meaning before).scanChar '\x60' =
          lexer.reading .normal (meaning ++ ['\x60']) before := by
        rw [← push_reading]
        rfl
      rw [List.nil_append, scan_reading_cons _ _ _ quoted, last,
        List.nil_append]
  | cons c body induction =>
      rw [List.mem_cons, not_or] at closed
      have literal : (lexer.reading .backQuote meaning before).scanChar c =
          (lexer.reading .backQuote meaning before).push c :=
        if_neg (Ne.symm closed.1)
      rw [List.cons_append, scan_reading_cons _ _ _ quoted, literal,
        push_reading, induction _ closed.2, List.append_assoc,
        List.singleton_append, List.cons_append]

theorem scanChar_reading_doubleQuote_backslash :
    (lexer.reading .doubleQuote meaning before).scanChar '\\' =
      lexer.reading .doubleQuoteEscaped meaning before := by
  rfl

theorem scanChar_reading_doubleQuoteEscaped (c : Char) :
    (lexer.reading .doubleQuoteEscaped meaning before).scanChar c =
      lexer.reading .doubleQuote
        (meaning ++ if c ∈ ['$', '\x60', '\x22', '\\'] then [c] else ['\\', c])
        before := by
  change ({ (if escapesInDoubleQuotes c then
      lexer.reading .doubleQuoteEscaped meaning before
    else (lexer.reading .doubleQuoteEscaped meaning before).push '\\').push c
    with mode := .doubleQuote } : Lexer) = _
  by_cases special : c ∈ ['$', '\x60', '\x22', '\\']
  · rw [if_pos special, if_pos ((escapesInDoubleQuotes_iff c).2 special),
      push_reading]
    rfl
  · have common : ¬escapesInDoubleQuotes c = true :=
      fun escapes => special ((escapesInDoubleQuotes_iff c).1 escapes)
    rw [if_neg special, if_neg common, push_reading, push_reading,
      List.append_assoc]
    rfl

theorem scan_reading_doubleQuote {body inner : List Char}
    (inside : DoubleQuoted body inner) (behind : List Char) :
    (lexer.reading .doubleQuote meaning before).scan
      (body ++ '\x22' :: behind) =
      (lexer.reading .normal (meaning ++ inner) before).scan behind := by
  have quoted : LexerMode.doubleQuote ≠ .normal := by decide
  have escaped : LexerMode.doubleQuoteEscaped ≠ .normal := by decide
  induction inside generalizing meaning with
  | nil =>
      rw [List.nil_append, scan_reading_cons _ _ _ quoted, List.append_nil]
      rfl
  | @plain c _ _ notEnd literal _ induction =>
      have kept : (lexer.reading .doubleQuote meaning before).scanChar c =
          (lexer.reading .doubleQuote meaning before).push c := by
        simp [scanChar, reading, notEnd, literal]
      rw [List.cons_append, scan_reading_cons _ _ _ quoted, kept,
        push_reading, induction, List.append_assoc, List.singleton_append]
  | @escaped c _ _ special _ induction =>
      rw [List.cons_append, List.cons_append, scan_reading_cons _ _ _ quoted,
        scanChar_reading_doubleQuote_backslash, scan_reading_cons _ _ _ escaped,
        scanChar_reading_doubleQuoteEscaped, if_pos special, induction,
        List.append_assoc, List.singleton_append]
  | @backslash c _ _ common _ induction =>
      rw [List.cons_append, List.cons_append, scan_reading_cons _ _ _ quoted,
        scanChar_reading_doubleQuote_backslash, scan_reading_cons _ _ _ escaped,
        scanChar_reading_doubleQuoteEscaped, if_neg common, induction,
        List.append_assoc, List.cons_append, List.singleton_append]

end Reading

/-- A piece of a word adds what it stands for to the word that is being read. -/
theorem scan_piece {text meaning : List Char} (piece : Piece text meaning)
    {lexer : Lexer} (normal : lexer.mode = .normal) :
    ∃ before, ∀ behind,
      lexer.scan (text ++ behind) =
        (lexer.reading .normal meaning before).scan behind := by
  cases piece with
  | @plain c visible ordinary =>
      have noSymbol : startsSymbol c = false := by
        simp_all [startsSymbol]
      have taken : lexer.scanChar c =
          lexer.reading .normal [c] lexer.wordBeforeEscape := by
        simp_all [scanChar, reading, push]
      refine ⟨lexer.wordBeforeEscape, fun behind => ?_⟩
      rw [List.singleton_append, scan_cons_of_ordinary _ noSymbol, taken]
  | escaped c =>
      have escape : lexer.scanChar '\\' =
          lexer.reading .escaped [] lexer.inWord := by
        simp [scanChar, normal, reading, isBlank]
      have escaped : LexerMode.escaped ≠ .normal := by decide
      refine ⟨lexer.inWord, fun behind => ?_⟩
      rw [List.cons_append, scan_cons_of_ordinary _ rfl, escape,
        List.singleton_append,
        scan_reading_cons _ _ _ escaped, ← List.nil_append [c], ← push_reading]
      rfl
  | @singleQuoted body closed =>
      have opened : lexer.scanChar '\x27' =
          lexer.reading .singleQuote [] lexer.wordBeforeEscape := by
        simp [scanChar, normal, reading, isBlank]
      refine ⟨lexer.wordBeforeEscape, fun behind => ?_⟩
      rw [List.cons_append, scan_cons_of_ordinary _ rfl, opened,
        List.append_assoc, List.singleton_append,
        scan_reading_singleQuote _ _ _ closed, List.nil_append]
  | @doubleQuoted body _ inside =>
      have opened : lexer.scanChar '\x22' =
          lexer.reading .doubleQuote [] lexer.wordBeforeEscape := by
        simp [scanChar, normal, reading, isBlank]
      refine ⟨lexer.wordBeforeEscape, fun behind => ?_⟩
      rw [List.cons_append, scan_cons_of_ordinary _ rfl, opened,
        List.append_assoc, List.singleton_append,
        scan_reading_doubleQuote _ _ _ inside, List.nil_append]
  | @backQuoted body closed =>
      have opened : lexer.scanChar '\x60' =
          lexer.reading .backQuote ['\x60'] lexer.wordBeforeEscape := by
        simp [scanChar, normal, reading, push, isBlank, String.ext_iff]
      refine ⟨lexer.wordBeforeEscape, fun behind => ?_⟩
      rw [List.cons_append, scan_cons_of_ordinary _ rfl, opened,
        List.append_assoc, List.singleton_append,
        scan_reading_backQuote _ _ _ closed, List.singleton_append]

theorem scan_word {text meaning : List Char}
    (spelled : WordSpelling text meaning) {lexer : Lexer}
    (normal : lexer.mode = .normal) :
    ∃ before, ∀ behind,
      lexer.scan (text ++ behind) =
        (lexer.reading .normal meaning before).scan behind := by
  induction spelled generalizing lexer with
  | one piece => exact scan_piece piece normal
  | more piece _ induction =>
      obtain ⟨before, first⟩ := scan_piece piece normal
      obtain ⟨after, others⟩ := @induction (lexer.reading .normal _ before) rfl
      refine ⟨after, fun behind => ?_⟩
      rw [List.append_assoc, first, others, reading_reading]

/-- The lexer between two words, behind the tokens that it has `read`. -/
structure IsBetween (lexer : Lexer) (read : List Token) : Prop where
  normal : lexer.mode = .normal
  tokens : lexer.tokens = read
  noWord : lexer.inWord = false
  word : lexer.word = ""

theorem isBetween_fresh : fresh.IsBetween [] :=
  ⟨rfl, rfl, rfl, rfl⟩

section Between

variable {lexer : Lexer} {read : List Token}

theorem IsBetween.endWord (between : lexer.IsBetween read) :
    lexer.endWord = lexer := by
  simp [Lexer.endWord, between.noWord]

theorem IsBetween.endWord_reading (between : lexer.IsBetween read)
    (meaning : List Char) (before : Bool) :
    (lexer.reading .normal meaning before).endWord.IsBetween
      (read ++ [.word (String.ofList meaning)]) := by
  constructor
  all_goals simp [Lexer.endWord, reading, between.tokens, between.word]

theorem IsBetween.addRelation (between : lexer.IsBetween read)
    (relation : Relation) :
    (lexer.addRelation relation).IsBetween (read ++ [.relation relation]) := by
  unfold Lexer.addRelation
  rw [between.endWord]
  exact ⟨between.normal,
    congrArg (· ++ [Token.relation relation]) between.tokens, between.noWord,
    between.word⟩

theorem IsBetween.scan_blank (between : lexer.IsBetween read) {lead : List Char}
    (blank : ∀ c ∈ lead, isBlank c = true) (behind : List Char) :
    lexer.scan (lead ++ behind) = lexer.scan behind := by
  induction lead with
  | nil => rfl
  | cons c lead induction =>
      have here : isBlank c = true := blank c List.mem_cons_self
      rw [List.cons_append,
        scan_cons_of_ordinary _ (startsSymbol_of_isBlank here),
        scanChar_blank between.normal here, between.endWord]
      exact induction fun d member => blank d (List.mem_cons_of_mem c member)

end Between

end Lexer

theorem Spelling.endsWord {word : String} {tokens : List Token}
    {text : List Char} (spelling : Spelling tokens text)
    (apart : ∀ next ∈ tokens.head?, (Token.word word).RunsInto next →
      ∃ c ∈ text.head?, isBlank c = true) :
    Lexer.EndsWord text := by
  intro c first
  rcases spelling.head_cases first with blank | ⟨next, isNext, opens⟩
  · exact .inl blank
  · cases next with
    | word _ =>
        obtain ⟨d, same, blank⟩ := apart _ isNext trivial
        cases Option.mem_unique first same
        exact .inl blank
    | relation relation => exact .inr (relation.startsSymbol_of_head opens)

theorem Spelling.head_ne_symbol {relation : Relation} {tokens : List Token}
    {text : List Char} (spelling : Spelling tokens text)
    (apart : ∀ next ∈ tokens.head?, (Token.relation relation).RunsInto next →
      ∃ c ∈ text.head?, isBlank c = true)
    (extensible : relation.isExtensible = true) :
    text.head? ≠ relation.symbol.toList.head? := by
  obtain ⟨c, rest, shape⟩ :=
    List.exists_cons_of_length_pos relation.symbol_length_pos
  have opening : c ∈ relation.symbol.toList.head? := by rw [shape]; rfl
  have notBlank : isBlank c ≠ true := fun blank => by
    have ordinary := startsSymbol_of_isBlank blank
    rw [Relation.startsSymbol_of_head opening] at ordinary
    cases ordinary
  intro same
  have first : c ∈ text.head? := same ▸ opening
  rcases spelling.head_cases first with blank | ⟨next, isNext, opens⟩
  · exact notBlank blank
  · cases next with
    | word _ =>
        rw [Token.OpensWith, Relation.startsSymbol_of_head opening] at opens
        cases opens
    | relation behind =>
        have alike : behind.symbol.toList.head? =
            relation.symbol.toList.head? :=
          opens.trans opening.symm
        obtain ⟨d, firstToo, blank⟩ := apart _ isNext ⟨extensible, alike⟩
        cases Option.mem_unique first firstToo
        exact notBlank blank

namespace Lexer

/-- The tokens of a spelling are added to those that have been read. -/
theorem IsBetween.scan_spelling {tokens : List Token} {text : List Char}
    (spelling : Spelling tokens text) {lexer : Lexer} {read : List Token}
    (between : lexer.IsBetween read) :
    (lexer.scan text).endWord.IsBetween (read ++ tokens) := by
  induction spelling generalizing lexer read with
  | @nil text blank =>
      have scanned := between.scan_blank blank []
      rw [List.append_nil, scan_nil] at scanned
      rwa [scanned, between.endWord, List.append_nil]
  | @cons token tokens lead own rest blank spelled behind apart induction =>
      rw [between.scan_blank blank]
      cases spelled with
      | @word _ meaning spelled =>
          obtain ⟨before, scanned⟩ := scan_word spelled between.normal
          -- The word is still open here; what follows ends it in any case.
          have ended := induction (between.endWord_reading meaning before)
          rw [endWord_scan_endWord rfl (behind.endsWord apart),
            List.append_assoc] at ended
          rwa [scanned]
      | relation relation =>
          have found : lexer.relationAt? (relation.symbol.toList ++ rest) =
              some (relation, rest) := by
            rw [relationAt?, if_pos between.normal]
            exact relation.read?_symbol (behind.head_ne_symbol apart)
          have added := induction (between.addRelation relation)
          rw [List.append_assoc] at added
          rwa [scan_of_relationAt? found]

theorem awaitsCommand_iff (tokens : List Token) :
    awaitsCommand tokens = true ↔
      ∃ relation ∈ [Relation.pipe, .and, .or],
        tokens.getLast? = some (.relation relation) := by
  unfold awaitsCommand
  split
  next relation last => cases relation <;> simp [Relation.awaitsCommand, last]
  next other =>
    constructor
    · nofun
    · rintro ⟨relation, _, last⟩
      exact absurd last (other relation)

theorem feed_spelling {tokens : List Token} {line : String}
    (spelling : Spelling tokens line.toList) :
    (fresh.feed line).1 =
      match Token.checkPlacement tokens false with
      | .error error => .error error
      | .ok () =>
        .ok (if awaitsCommand tokens then .needsMore
          else .complete tokens) := by
  have scanned := isBetween_fresh.scan_spelling spelling
  have normal : (fresh.scan line.toList).mode = .normal :=
    (mode_endWord _).symm.trans scanned.normal
  rw [List.nil_append] at scanned
  rw [feed, endOfLine, normal]
  simp only [scanned.tokens]
  cases Token.checkPlacement tokens false with
  | error error => rfl
  | ok _ =>
    simp only
    split <;> rfl

/-- A fresh lexer undoes every spelling: it stands behind exactly the tokens
that the line spells, and their placement decides what the line gives. -/
theorem scan_feed_of_spelling {tokens : List Token} {line : String}
    (spelling : Spelling tokens line.toList) :
    (fresh.scan line.toList).endWord.IsBetween tokens ∧
      (∀ error, Token.checkPlacement tokens false = .error error →
        (fresh.feed line).1 = .error error) ∧
      (Token.checkPlacement tokens false = .ok () →
        (∃ relation ∈ [Relation.pipe, .and, .or],
          tokens.getLast? = some (.relation relation)) →
        (fresh.feed line).1 = .ok .needsMore) ∧
      (Token.checkPlacement tokens false = .ok () →
        (¬∃ relation ∈ [Relation.pipe, .and, .or],
          tokens.getLast? = some (.relation relation)) →
        (fresh.feed line).1 = .ok (.complete tokens)) := by
  refine ⟨isBetween_fresh.scan_spelling spelling, ?_, ?_, ?_⟩
  · intro error misplaced
    rw [feed_spelling spelling, misplaced]
  · intro placed awaits
    rw [feed_spelling spelling, placed]
    simp only [if_pos ((awaitsCommand_iff tokens).2 awaits)]
  · intro placed done
    have finished : ¬awaitsCommand tokens = true :=
      fun awaits => done ((awaitsCommand_iff tokens).1 awaits)
    rw [feed_spelling spelling, placed]
    simp only [if_neg finished]

theorem complete_of_gluedPieces :
    (fresh.feed "a'|b'\\ >>\"\"").1 =
      .ok (.complete [.word "a|b ", .relation .redirectAppend, .word ""]) := by
  have noText : Spelling [.word ""] ['\x22', '\x22'] :=
    .glued (.word (.one (.doubleQuoted .nil))) .empty nofun
  have redirected :
      Spelling [.relation .redirectAppend, .word ""]
        ['>', '>', '\x22', '\x22'] :=
    .glued (.relation .redirectAppend) noText nofun
  have plain : Piece ['a'] ['a'] := .plain rfl (by decide)
  have quoted : Piece ['\x27', '|', 'b', '\x27'] ['|', 'b'] :=
    .singleQuoted (by decide : '\x27' ∉ ['|', 'b'])
  have spelling : Spelling [.word "a|b ", .relation .redirectAppend, .word ""]
      ("a'|b'\\ >>\"\"").toList :=
    .glued (.word (.more plain (.more quoted (.one (.escaped ' '))))) redirected
      (by simp [Token.RunsInto])
  exact (scan_feed_of_spelling spelling).2.2.2 rfl (by decide)

end Lexer

end JobShell
