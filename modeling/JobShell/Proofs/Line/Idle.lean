import JobShell.Proofs.Line.Continuation

/-!
# Between two commands

A line that is a complete command, and a line that is none, leave the lexer
idle, and so does the end of the input.  All idle lexers go on in the same way,
and to a line with nothing in it they give no tokens.
-/

namespace JobShell

namespace Lexer

variable {lexer other : Lexer} {line : String}

namespace Alike

theorem symm (alike : lexer.Alike other) : other.Alike lexer where
  mode := alike.mode.symm
  tokens := alike.tokens.symm
  word := alike.word.symm
  inWord := alike.inWord.symm
  before := fun escaped => (alike.before (alike.mode ▸ escaped)).symm

theorem trans {last : Lexer} (first : lexer.Alike other)
    (second : other.Alike last) :
    lexer.Alike last where
  mode := second.mode.trans first.mode
  tokens := second.tokens.trans first.tokens
  word := second.word.trans first.word
  inWord := second.inWord.trans first.inWord
  before := fun escaped =>
    (second.before (first.mode.trans escaped)).trans (first.before escaped)

theorem finish (alike : lexer.Alike other) : other.finish = lexer.finish := by
  unfold Lexer.finish
  rw [alike.mode, alike.endWord.tokens]

end Alike

theorem IsIdle.fresh : fresh.IsIdle :=
  ⟨rfl, rfl, rfl⟩

theorem IsIdle.alike (idle : lexer.IsIdle) (reachable : Reachable lexer)
    (otherIdle : other.IsIdle) (otherReachable : Reachable other) :
    lexer.Alike other :=
  (idle.alike_fresh reachable).symm.trans (otherIdle.alike_fresh otherReachable)

theorem inWord_endWord (lexer : Lexer) : lexer.endWord.inWord = false := by
  unfold endWord
  split
  · rfl
  · next noWord => simpa using noWord

theorem isIdle_of_complete {tokens : List Token}
    (complete : (lexer.feed line).1 = .ok (.complete tokens)) :
    (lexer.feed line).2.IsIdle := by
  rw [feed, endOfLine] at complete ⊢
  cases here : (lexer.scan line.toList).mode with
  | normal =>
      rw [here] at complete
      dsimp only at complete ⊢
      split
      · next failed =>
          rw [failed] at complete
          cases complete
      · next placed =>
          rw [placed] at complete
          dsimp only at complete
          split
          · next awaits =>
              rw [if_pos awaits] at complete
              cases complete
          · exact ⟨(mode_endWord _).trans here, rfl, inWord_endWord _⟩
  | escaped | doubleQuoteEscaped | singleQuote | doubleQuote | backQuote =>
      rw [here] at complete
      cases complete

theorem feed_of_error {error : LineError}
    (failed : (lexer.feed line).1 = .error error) :
    (lexer.feed line).2 = fresh := by
  rw [feed, endOfLine] at failed ⊢
  cases here : (lexer.scan line.toList).mode with
  | normal =>
      rw [here] at failed
      dsimp only at failed ⊢
      split
      · rfl
      · next placed =>
          rw [placed] at failed
          dsimp only at failed
          split at failed
          · cases failed
          · cases failed
  | escaped | doubleQuoteEscaped | singleQuote | doubleQuote | backQuote =>
      rw [here] at failed
      cases failed

theorem IsIdle.scan_blank (idle : lexer.IsIdle) {text : List Char}
    (blank : ∀ c ∈ text, isBlank c = true) : lexer.scan text = lexer := by
  induction text with
  | nil => exact scan_nil lexer
  | cons c rest induction =>
      have first : isBlank c = true := blank c List.mem_cons_self
      have kept : lexer.endWord = lexer := by simp [endWord, idle.noWord]
      rw [scan_cons_of_ordinary lexer (startsSymbol_of_isBlank first),
        scanChar_blank idle.normal first, kept]
      exact induction fun d member => blank d (List.mem_cons_of_mem c member)

/-- An idle lexer finds nothing in a blank line. -/
theorem IsIdle.feed_blank (idle : lexer.IsIdle)
    (blank : Text.allBlank line = true) :
    (lexer.feed line).1 = .ok (.complete []) := by
  have kept : lexer.endWord = lexer := by simp [endWord, idle.noWord]
  rw [feed, idle.scan_blank ((Text.allBlank_iff line).mp blank), endOfLine,
    idle.normal]
  dsimp only
  rw [kept, idle.noTokens]
  rfl

theorem IsIdle.finish (idle : lexer.IsIdle) : lexer.finish.1 = .ok [] := by
  have kept : lexer.endWord = lexer := by simp [endWord, idle.noWord]
  unfold Lexer.finish
  rw [idle.normal]
  dsimp only
  rw [kept, idle.noTokens]
  rfl

end Lexer

end JobShell
