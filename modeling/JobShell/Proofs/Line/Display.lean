import JobShell.Proofs.Line.Spelling
import JobShell.Proofs.Line.Compiling
import JobShell.Proofs.Line.Placement

/-!
# Reading back what is shown

The text of a sequence spells a line: the one that has been compiled, with the
redirections of each command that count behind its arguments.  So it compiles to
the same sequence again.
-/

namespace JobShell

/-- What is relied on when words are quoted: a word is written as it is only if
it has characters and all of them are harmless, and otherwise between single
quotes. -/
def QuotesWords (quote : String → String) : Prop :=
  ∀ word : String,
    (quote word = word ∧ word ≠ "" ∧
      ∀ c ∈ word.toList,
        c ∉ ['|', '&', ';', '<', '>', '(', ')', '$', '\x60', '\\', '\x22',
          '\x27', ' ', '\t', '\n']) ∨
    quote word =
      String.ofList
        ('\x27' :: (word.toList.flatMap Text.quotedChar ++ ['\x27']))

theorem quotesWords_quote : QuotesWords Text.quote := by
  intro word
  unfold Text.quote
  split
  next empty =>
    obtain rfl := String.isEmpty_iff.1 empty
    exact .inr rfl
  next nonempty =>
    split
    next special => exact .inr rfl
    next harmless =>
      refine .inl ⟨rfl, fun empty => nonempty (String.isEmpty_iff.2 empty),
        fun c member => ?_⟩
      intro special
      refine harmless (List.any_eq_true.2 ⟨c, member, ?_⟩)
      revert special
      simp only [List.mem_cons, List.not_mem_nil, or_false]
      rintro (rfl | rfl | rfl | rfl | rfl | rfl | rfl | rfl | rfl | rfl | rfl |
        rfl | rfl | rfl | rfl)
      all_goals decide

/-- A single quote ends the quoted piece before it, and the next one begins
behind it; `body` is what the open piece holds already. -/
theorem wordSpelling_quoted {body : List Char} (closed : '\x27' ∉ body)
    (word : List Char) :
    WordSpelling
      ('\x27' :: (body ++ (word.flatMap Text.quotedChar ++ ['\x27'])))
        (body ++ word) := by
  induction word generalizing body with
  | nil =>
      rw [List.flatMap_nil, List.nil_append, List.append_nil]
      exact .one (.singleQuoted closed)
  | cons c word induction =>
      by_cases single : c = '\x27'
      · subst single
        have others := induction (List.not_mem_nil : '\x27' ∉ [])
        have spelled : WordSpelling _ _ :=
          .more (.singleQuoted closed) (.more (.escaped '\x27') others)
        simpa [Text.quotedChar] using spelled
      · have closedToo : '\x27' ∉ body ++ [c] := by
          simp [closed, Ne.symm single]
        simpa [Text.quotedChar, single] using induction closedToo

theorem QuotesWords.tokenSpelling {quote : String → String}
    (quotes : QuotesWords quote) {word : String}
    (blanks : ∀ c ∈ word.toList, isBlank c = true → c ∈ [' ', '\t', '\n']) :
    TokenSpelling (.word word) (quote word).toList := by
  have spelled : WordSpelling (quote word).toList word.toList := by
    rcases quotes word with ⟨same, nonempty, harmless⟩ | quoted
    · rw [same]
      refine wordSpelling_plain (by simpa using nonempty) fun c member => ?_
      have ordinary := harmless c member
      refine .plain ?_ ?_
      · rw [Bool.eq_false_iff]
        intro blank
        have common := blanks c member blank
        simp_all
      · simp_all
    · rw [quoted, String.toList_ofList]
      exact wordSpelling_quoted List.not_mem_nil word.toList
  have token := TokenSpelling.word spelled
  rwa [String.ofList_toList] at token

namespace Grammar

variable (quote : String → String)

def Item.text : Item → List Char
  | argument word => ' ' :: (quote word).toList
  | redirection given => (given.displayWith quote).toList

def Clause.text (clause : Clause) : List Char :=
  (quote clause.program).toList ++ clause.items.flatMap (Item.text quote)

def joinedText (joined : List (Clause × Sign)) : List Char :=
  joined.flatMap fun entry => entry.1.text quote ++ entry.2.join.display.toList

def Ending.text : Ending → List Char
  | none => []
  | semi => [';']
  | background => [' ', '&']

def Line.text (line : Line) : List Char :=
  joinedText quote line.joined ++ (line.last.text quote ++ line.ending.text)

/-- A spelling that can stand behind a word. -/
structure SpelledBehindWord (tokens : List Token)
    (text : List Char) : Prop where
  spelling : Spelling tokens text
  apart : ∀ word next, next ∈ tokens.head? → (Token.word word).RunsInto next →
    ∃ c ∈ text.head?, isBlank c = true

variable {quote} {tokens : List Token} {text : List Char}

theorem spelledBehindWord_item {item : Item}
    (spells : ∀ word, .word word ∈ item.tokens →
      TokenSpelling (.word word) (quote word).toList)
    (behind : SpelledBehindWord tokens text) :
    SpelledBehindWord (item.tokens ++ tokens) (item.text quote ++ text) := by
  cases item with
  | argument word =>
      have spelled := spells word List.mem_cons_self
      exact ⟨.spaced spelled behind.spelling (behind.apart word),
        fun _ _ _ _ => ⟨' ', rfl, rfl⟩⟩
  | redirection given =>
      obtain ⟨operator, file⟩ := given
      have spelled := spells file (by simp [Item.tokens])
      have fileSpelled :=
        Spelling.spaced spelled behind.spelling (behind.apart file)
      have whole :
          Spelling (.relation operator.relation :: .word file :: tokens) _ :=
        .spaced (.relation operator.relation) fileSpelled nofun
      have shape : (Item.redirection ⟨operator, file⟩).text quote ++ text =
          ' ' ::
            (operator.relation.symbol.toList ++
              (' ' :: ((quote file).toList ++ text))) := by
        cases operator <;>
          simp [Item.text, Redirection.displayWith, RedirectOp.symbol,
            RedirectOp.relation, Relation.symbol]
      rw [shape]
      exact ⟨whole, fun _ _ _ _ => ⟨' ', rfl, rfl⟩⟩

theorem spelledBehindWord_items {items : List Item}
    (spells : ∀ word, .word word ∈ items.flatMap Item.tokens →
      TokenSpelling (.word word) (quote word).toList)
    (behind : SpelledBehindWord tokens text) :
    SpelledBehindWord (items.flatMap Item.tokens ++ tokens)
      (items.flatMap (Item.text quote) ++ text) := by
  induction items with
  | nil => exact behind
  | cons item items induction =>
      rw [List.flatMap_cons, List.flatMap_cons, List.append_assoc,
        List.append_assoc]
      refine spelledBehindWord_item (fun word member => spells word ?_)
        (induction fun word member => spells word ?_)
      · exact List.mem_append_left _ member
      · exact List.mem_append_right _ member

theorem spelling_clause {clause : Clause}
    (spells : ∀ word, .word word ∈ clause.tokens →
      TokenSpelling (.word word) (quote word).toList)
    (behind : SpelledBehindWord tokens text) :
    Spelling (clause.tokens ++ tokens) (clause.text quote ++ text) := by
  have items := spelledBehindWord_items
    (fun word member => spells word (List.mem_cons_of_mem _ member)) behind
  rw [Clause.text, List.append_assoc]
  exact .glued (spells clause.program List.mem_cons_self) items.spelling
    (items.apart _)

theorem spelledBehindWord_sign (sign : Sign) (behind : Spelling tokens text) :
    SpelledBehindWord (.relation sign.relation :: tokens)
      (sign.join.display.toList ++ text) := by
  have relation := TokenSpelling.relation sign.relation
  have apart : ∀ next ∈ tokens.head?,
      (Token.relation sign.relation).RunsInto next →
      ∃ c ∈ (' ' :: text).head?, isBlank c = true :=
    fun _ _ _ => ⟨' ', rfl, rfl⟩
  have glued := Spelling.glued relation behind.blank_cons apart
  have spaced := Spelling.spaced relation behind.blank_cons apart
  refine ⟨?_, nofun⟩
  cases sign with
  | semi => exact glued
  | pipe => exact spaced
  | and => exact spaced
  | or => exact spaced

theorem spelledBehindWord_ending (ending : Ending) :
    SpelledBehindWord ending.tokens ending.text := by
  cases ending with
  | none => exact ⟨.empty, nofun⟩
  | semi => exact ⟨.glued (.relation .semi) .empty nofun, nofun⟩
  | background => exact ⟨.spaced (.relation .background) .empty nofun, nofun⟩

theorem spelling_line {line : Line}
    (spells : ∀ word, .word word ∈ line.tokens →
      TokenSpelling (.word word) (quote word).toList) :
    Spelling line.tokens (line.text quote) := by
  obtain ⟨joined, last, ending⟩ := line
  induction joined with
  | nil =>
      have ended := spelledBehindWord_ending ending
      exact spelling_clause
        (fun word member => spells word (List.mem_append_left _ member)) ended
  | cons entry joined induction =>
      have textShape : Line.text quote ⟨entry :: joined, last, ending⟩ =
          entry.1.text quote ++
          (entry.2.join.display.toList ++
            Line.text quote ⟨joined, last, ending⟩) := by
        simp [Line.text, joinedText]
      rw [Line.tokens_cons] at spells ⊢
      rw [textShape]
      refine spelling_clause (fun word member =>
        spells word (List.mem_append_left _ member))
        (spelledBehindWord_sign entry.2
          (induction fun word member => spells word ?_))
      exact List.mem_append_right _ (List.mem_cons_of_mem _ member)

theorem mem_of_mem_lastPerTarget {written : List Redirection}
    {redirection : Redirection}
    (member : redirection ∈ lastPerTarget written) : redirection ∈ written := by
  induction written with
  | nil => exact member
  | cons first rest induction =>
      rw [lastPerTarget] at member
      split at member
      · exact List.mem_cons_of_mem first (induction member)
      · rcases List.mem_cons.1 member with rfl | later
        · exact List.mem_cons_self
        · exact List.mem_cons_of_mem first (induction later)

theorem lastPerTarget_lastPerTarget (written : List Redirection) :
    lastPerTarget (lastPerTarget written) = lastPerTarget written := by
  induction written with
  | nil => rfl
  | cons first rest induction =>
      rw [lastPerTarget]
      by_cases later : ∃ later ∈ rest, later.target = first.target
      · rw [if_pos later, induction]
      · have noneLater : ¬∃ later ∈ lastPerTarget rest,
            later.target = first.target := by
          rintro ⟨entry, member, same⟩
          exact later ⟨entry, mem_of_mem_lastPerTarget member, same⟩
        rw [if_neg later, lastPerTarget, if_neg noneLater, induction]

/-- The arguments of a command, and behind them the redirections that count. -/
def Clause.settled (clause : Clause) : Clause :=
  { clause with
    items := (clause.items.filterMap Item.argument?).map .argument ++
      (lastPerTarget clause.written).map .redirection }

theorem Clause.command_settled (clause : Clause) :
    clause.settled.command = clause.command := by
  have arguments : clause.settled.arguments = clause.arguments := by
    simp [settled, Clause.arguments, List.filterMap_map, Function.comp_def,
      Item.argument?]
  have written : clause.settled.written = lastPerTarget clause.written := by
    simp [settled, Clause.written, List.filterMap_map, Function.comp_def,
      Item.redirection?]
  rw [command, command, arguments, written, lastPerTarget_lastPerTarget]

theorem Clause.mem_items_of_settled {clause : Clause} {item : Item}
    (member : item ∈ clause.settled.items) : item ∈ clause.items := by
  rcases List.mem_append.1 member with argument | redirection
  · obtain ⟨word, isArgument, rfl⟩ := List.mem_map.1 argument
    obtain ⟨given, inItems, same⟩ := List.mem_filterMap.1 isArgument
    cases given with
    | argument _ =>
        cases same
        exact inItems
    | redirection _ => cases same
  · obtain ⟨counting, isLast, rfl⟩ := List.mem_map.1 redirection
    obtain ⟨given, inItems, same⟩ :=
      List.mem_filterMap.1 (mem_of_mem_lastPerTarget isLast)
    cases given with
    | argument _ => cases same
    | redirection _ =>
        cases same
        exact inItems

theorem Clause.mem_tokens_of_settled {clause : Clause} {token : Token}
    (member : token ∈ clause.settled.tokens) : token ∈ clause.tokens := by
  rcases List.mem_cons.1 member with rfl | member
  · exact List.mem_cons_self
  · obtain ⟨item, inItems, inItem⟩ := List.mem_flatMap.1 member
    exact List.mem_cons_of_mem _
      (List.mem_flatMap.2 ⟨item, mem_items_of_settled inItems, inItem⟩)

/-- The line whose text a sequence shows. -/
def Line.settled (line : Line) : Line where
  joined := line.joined.map fun entry => (entry.1.settled, entry.2)
  last := line.last.settled
  ending := if line.ending = .background then .background else .none

theorem Line.mem_tokens_of_settled {line : Line} {token : Token}
    (member : token ∈ line.settled.tokens) : token ∈ line.tokens := by
  obtain ⟨joined, last, ending⟩ := line
  simp only [tokens, settled, joinedTokens, List.flatMap_map, List.mem_append,
    List.mem_flatMap] at member ⊢
  rcases member with (⟨entry, inJoined, inEntry | isSign⟩ | inLast) | inEnding
  · exact .inl
      (.inl ⟨entry, inJoined, .inl (Clause.mem_tokens_of_settled inEntry)⟩)
  · exact .inl (.inl ⟨entry, inJoined, .inr isSign⟩)
  · exact .inl (.inr (Clause.mem_tokens_of_settled inLast))
  · refine .inr ?_
    cases ending with
    | none => exact inEnding
    | semi => cases inEnding
    | background => exact inEnding

end Grammar

namespace Sequence

open Grammar

theorem lineCommands_settled (line : Line) :
    lineCommands line.settled = lineCommands line := by
  simp [lineCommands, Line.clauses, Line.settled, Clause.command_settled]

theorem compile_settled (line : Line) :
    compile line.settled.tokens = compile line.tokens := by
  have ending : (line.settled.ending == .background) =
      (line.ending == .background) := by
    cases line with
    | mk joined last ending => cases ending <;> rfl
  rw [compile_tokens, compile_tokens, lineCommands_settled, ending]

theorem toList_foldl_append {α : Type} (shown : α → String) (entries : List α)
    (front : String) :
    (entries.foldl (fun text entry => text ++ shown entry) front).toList =
      front.toList ++ entries.flatMap fun entry => (shown entry).toList := by
  induction entries generalizing front with
  | nil => simp
  | cons entry entries induction => simp [induction]

theorem intercalate_space (first : List Char) (words : List (List Char)) :
    [' '].intercalate (first :: words) = first ++ words.flatMap fun word =>
      ' ' :: word := by
  induction words generalizing first with
  | nil => simp [List.intercalate]
  | cons next words induction =>
      rw [List.intercalate_cons_cons, induction, List.flatMap_cons,
        List.append_assoc, List.singleton_append, List.cons_append]

variable (quote : String → String)

theorem toList_joinWords (first : String) (words : List String) :
    (Text.joinWords quote (first :: words)).toList =
      (quote first).toList ++ words.flatMap fun word =>
        ' ' :: (quote word).toList := by
  rw [Text.joinWords, String.toList_intercalate, List.map_cons, List.map_cons]
  have spaces :=
    intercalate_space (quote first).toList ((words.map quote).map String.toList)
  rw [List.flatMap_map, List.flatMap_map] at spaces
  exact spaces

theorem toList_displayWith_command (clause : Clause) :
    (clause.command.displayWith quote).toList = clause.settled.text quote := by
  rw [Command.displayWith, toList_foldl_append]
  have words :=
    toList_joinWords quote clause.program
      (clause.items.filterMap Item.argument?)
  change (Text.joinWords quote clause.arguments).toList = _ at words
  change (Text.joinWords quote clause.arguments).toList ++ _ = _
  rw [words]
  simp [Clause.text, Clause.settled, Item.text, Clause.command,
    List.flatMap_map]

def shownEntry (entry : Command × Join) : String :=
  entry.1.displayWith quote ++ entry.2.display

/-- The text does not show which commands are builtins. -/
theorem flatMap_markBuiltins (background afterPipe : Bool)
    (commands : List (Command × Join)) :
    (markBuiltins background afterPipe commands).flatMap
        (fun entry => (shownEntry quote entry).toList) =
      commands.flatMap fun entry => (shownEntry quote entry).toList := by
  induction commands generalizing afterPipe with
  | nil => rfl
  | cons entry commands induction =>
      rw [markBuiltins, List.flatMap_cons, List.flatMap_cons, induction]
      rfl

theorem flatMap_lineCommands (line : Line) :
    ((lineCommands line).flatMap fun entry => (shownEntry quote entry).toList) =
      joinedText quote line.settled.joined ++ line.last.settled.text quote := by
  simp [lineCommands, Line.clauses, Line.settled, joinedText, shownEntry,
    List.flatMap_map, toList_displayWith_command, Join.display]

theorem toList_displayWith_line {line : Line} {sequence : Sequence}
    (compiled : compile line.tokens = .ok sequence) :
    (sequence.displayWith quote).toList = line.settled.text quote := by
  rw [compile_tokens] at compiled
  cases compiled
  simp only [displayWith, String.append_assoc]
  have shown := toList_foldl_append (shownEntry quote)
    (markBuiltins (line.ending == .background) false (lineCommands line)) ""
  rw [flatMap_markBuiltins, flatMap_lineCommands] at shown
  simp only [shownEntry] at shown
  cases ended : line.ending with
  | none | semi =>
      rw [ended] at shown
      simp [Line.text, Line.settled, Ending.text, ended, shown]
  | background =>
      rw [ended, beq_self_eq_true] at shown
      simp [Line.text, Line.settled, Ending.text, ended, shown]

/-- The text of a compiled sequence, read as one line, gives the sequence
again. -/
theorem compile_feed_displayWith {quote : String → String}
    (quotes : QuotesWords quote) {tokens : List Token} {sequence : Sequence}
    (compiled : compile tokens = .ok sequence)
    (blanks : ∀ word, .word word ∈ tokens →
      ∀ c ∈ word.toList, isBlank c = true → c ∈ [' ', '\t', '\n']) :
    ∃ read,
      (Lexer.fresh.feed (sequence.displayWith quote)).1 = .ok (.complete read) ∧
      compile read = .ok sequence := by
  rcases exists_line_of_compile compiled with rfl | ⟨line, rfl⟩
  · cases compiled
    have nothing : Spelling [] (displayWith quote Sequence.empty).toList :=
      .empty
    exact ⟨[], Lexer.feed_spelling nothing, rfl⟩
  · refine ⟨line.settled.tokens, ?_, (compile_settled line).trans compiled⟩
    have spelling :
        Spelling line.settled.tokens (sequence.displayWith quote).toList := by
      rw [toList_displayWith_line quote compiled]
      exact spelling_line fun word member =>
        quotes.tokenSpelling (blanks word (Line.mem_tokens_of_settled member))
    rw [Lexer.feed_spelling spelling, Token.checkPlacement_line,
      Lexer.awaitsCommand_line]
    rfl

theorem compile_feed_display_oddWords :
    ∃ sequence, compile
        [.word "echo", .relation .redirectOut, .word "", .word "it's",
          .relation .redirectAppend, .word "a\nb", .relation .pipe,
          .word "\x60|\x60", .relation .background] =
          .ok sequence ∧
      sequence.display = "echo 'it'\\''s' >> 'a\nb' | '\x60|\x60' &" ∧
      ∃ read, (Lexer.fresh.feed sequence.display).1 = .ok (.complete read) ∧
        compile read = .ok sequence := by
  have compiled : compile
      [.word "echo", .relation .redirectOut, .word "", .word "it's",
        .relation .redirectAppend, .word "a\nb", .relation .pipe,
        .word "\x60|\x60", .relation .background] = .ok _ := rfl
  refine ⟨_, compiled, ?_,
    compile_feed_displayWith quotesWords_quote compiled ?_⟩
  · rfl
  · intro word member
    simp only [List.mem_cons, Token.word.injEq, reduceCtorEq, false_or,
      List.not_mem_nil, or_false] at member
    rcases member with rfl | rfl | rfl | rfl | rfl <;> simp [isBlank]

end Sequence

end JobShell
