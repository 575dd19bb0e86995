import JobShell.Proofs.Line.Compiling
import JobShell.Proofs.Line.Placement

/-!
# What the lexer lets through

The lexer looks at the relations of a line before the compiler reads it.  It
lets through every line that the compiler accepts, and of the lines that it lets
through the compiler refuses those with a stray relation: a redirection where a
command has to begin, or a `&` that is not the last token.
-/

namespace JobShell

namespace Token

def relation? : Token → Option Relation
  | word _ => none
  | relation r => some r

/-- Behind this token a command has to begin. -/
def isJoin : Token → Bool
  | word _ => false
  | relation r => r.isJoin

/-- Behind these tokens a command has to begin; `first` says whether it has to
where there are none. -/
def CommandBegins (first : Bool) (front : List Token) : Prop :=
  front.getLast?.elim first isJoin = true

/-- The relation stands among the tokens where the lexer lets it stand, but
where no line of the grammar has it. -/
def Stray (first : Bool) (tokens : List Token) (r : Relation) : Prop :=
  ∃ front rest, tokens = front ++ relation r :: rest ∧
    ((r.isRedirect = true ∧ CommandBegins first front) ∨
      (r = .background ∧ rest ≠ []))

theorem elim_getLast?_cons {α β : Type} (none : β) (some : α → β) (first : α)
    (rest : List α) :
    (first :: rest).getLast?.elim none some =
      rest.getLast?.elim (some first) some := by
  rw [List.getLast?_cons]
  cases rest.getLast? <;> rfl

theorem commandBegins_cons (first : Bool) (token : Token) (front : List Token) :
    CommandBegins first (token :: front) ↔
      CommandBegins token.isJoin front := by
  rw [CommandBegins, elim_getLast?_cons]
  rfl

theorem stray_cons {first : Bool} {token : Token} {tokens : List Token}
    {r : Relation} :
    Stray first (token :: tokens) r ↔
      (token = relation r ∧
        ((r.isRedirect = true ∧ first = true) ∨
          (r = .background ∧ tokens ≠ []))) ∨
      Stray token.isJoin tokens r := by
  constructor
  · rintro ⟨front, rest, shape, reason⟩
    cases front with
    | nil =>
        cases shape
        exact .inl ⟨rfl, reason⟩
    | cons head front =>
        cases shape
        rw [commandBegins_cons] at reason
        exact .inr ⟨front, rest, rfl, reason⟩
  · rintro (⟨rfl, reason⟩ | ⟨front, rest, rfl, reason⟩)
    · exact ⟨[], tokens, rfl, reason⟩
    · rw [← commandBegins_cons first] at reason
      exact ⟨token :: front, rest, rfl, reason⟩

theorem not_stray_nil (first : Bool) (r : Relation) : ¬Stray first [] r := by
  rintro ⟨front, rest, shape, _⟩
  simp at shape

theorem lastRelation_relation {previous last : Option Relation} {first : Bool}
    {r : Relation} {rest : List Token} :
    lastRelation previous first (relation r :: rest) = .ok last ↔
      isMisplaced previous first r = false ∧
      lastRelation (some r) false rest = .ok last := by
  rw [lastRelation]
  cases isMisplaced previous first r <;> simp

theorem lastRelation_eq {previous last : Option Relation} {first : Bool}
    {tokens : List Token}
    (found : lastRelation previous first tokens = .ok last) :
    last = tokens.getLast?.elim previous relation? := by
  induction tokens generalizing previous first with
  | nil =>
      cases found
      rfl
  | cons token rest induction =>
      rw [elim_getLast?_cons]
      cases token with
      | word text => exact induction found
      | relation r => exact induction (lastRelation_relation.mp found).2

theorem checkPlacement_eq_ok_iff {tokens : List Token} {complete : Bool} :
    checkPlacement tokens complete = .ok () ↔
      ∃ last, lastRelation none true tokens = .ok last ∧
        ∀ r ∈ last, r.isRedirect = false ∧
          (complete = true → r.awaitsCommand = false) := by
  unfold checkPlacement
  cases found : lastRelation none true tokens with
  | error error =>
      constructor
      · nofun
      · rintro ⟨_, impossible, _⟩
        cases impossible
  | ok last =>
      cases last with
      | none => simp [bind, Except.bind, pure, Except.pure]
      | some r =>
          cases redirects : r.isRedirect <;> cases awaits : r.awaitsCommand <;>
            cases complete <;>
            simp [bind, Except.bind, pure, Except.pure, throw, throwThe,
              MonadExceptOf.throw, *]

end Token

namespace Sequence

open Grammar Token

variable {closed : List (Command × Join)} {current : Command}
  {tokens : List Token} {previous last : Option Relation} {first : Bool}

theorem isRedirect_of_ofRelation? {relation : Relation} {operator : RedirectOp}
    (given : RedirectOp.ofRelation? relation = some operator) :
    relation.isRedirect = true ∧ relation.isJoin = false ∧
    relation ≠ .background := by
  cases relation <;> cases given <;> exact ⟨rfl, rfl, nofun⟩

theorem isRedirect_of_isJoin {relation : Relation} {join : Join}
    (given : Join.ofRelation? relation = some join) :
    relation.isRedirect = false ∧ relation.isJoin = true ∧
    relation ≠ .background := by
  cases relation <;> cases given <;> exact ⟨rfl, rfl, nofun⟩

/-- Both walks have come to the same place: a command has to begin for the
compiler exactly where only a redirection may stand for the lexer. -/
def SamePlace (previous : Option Relation) (first : Bool)
    (current : Command) : Prop :=
  ∀ relation, isMisplaced previous first relation =
    (current.isEmpty && !relation.isRedirect)

theorem samePlace_start : SamePlace none true Command.empty :=
  fun _ => rfl

theorem samePlace_word (given : current.isEmpty = false) :
    SamePlace none false current :=
  fun _ => by rw [given]; rfl

theorem samePlace_join {relation : Relation}
    (joins : relation.isRedirect = false) :
    SamePlace (some relation) false Command.empty :=
  fun other => by rw [isMisplaced, joins, Bool.false_or]; rfl

theorem isEmpty_word (current : Command) (text : String) :
    Command.isEmpty { current with arguments := current.arguments ++ [text] } =
      false := by
  simp [Command.isEmpty]

/-- What stops the compiler in tokens that have passed the check is a stray
relation. -/
theorem stray_of_readTokens {error : LineError}
    (failed : readTokens closed current tokens = .error error)
    (same : SamePlace previous first current)
    (placed : lastRelation previous first tokens = .ok last)
    (target : ∀ relation ∈ last, relation.isRedirect = false) :
    ∃ relation,
      error = .unexpected relation ∧ Stray current.isEmpty tokens relation := by
  fun_induction readTokens closed current tokens
    generalizing previous first with
  | case1 => cases failed
  | case2 closed current text rest induction =>
      have given := isEmpty_word current text
      obtain ⟨relation, reason, stray⟩ :=
        induction failed (samePlace_word given) placed
      rw [given] at stray
      exact ⟨relation, reason, stray_cons.mpr (.inr stray)⟩
  | case3 closed current relation rest operator given empty =>
      cases failed
      have redirects := (isRedirect_of_ofRelation? given).1
      exact ⟨relation, rfl,
        stray_cons.mpr (.inl ⟨rfl, .inl ⟨redirects, empty⟩⟩)⟩
  | case4 closed current relation operator given started file rest induction =>
      obtain ⟨redirects, noJoin, _⟩ := isRedirect_of_ofRelation? given
      have behind : (current.redirect ⟨operator, file⟩).isEmpty = false := by
        simpa [Command.redirect, Command.isEmpty] using started
      have placedBehind := (lastRelation_relation.mp placed).2
      obtain ⟨stopped, reason, stray⟩ :=
        induction failed (samePlace_word behind) placedBehind
      rw [behind] at stray
      have later :
          Stray (Token.isJoin (.relation relation))
            (.word file :: rest) stopped :=
        stray_cons.mpr (.inr stray)
      exact ⟨stopped, reason, stray_cons.mpr (.inr later)⟩
  | case5 closed current relation operator given started next rest =>
      -- the lexer lets no relation follow a redirection
      obtain ⟨_, placedBehind⟩ := lastRelation_relation.mp placed
      have apart := (lastRelation_relation.mp placedBehind).1
      rw [isMisplaced, (isRedirect_of_ofRelation? given).1] at apart
      cases apart
  | case6 closed current relation operator given started =>
      obtain ⟨_, placedBehind⟩ := lastRelation_relation.mp placed
      cases placedBehind
      have missing := target relation rfl
      rw [(isRedirect_of_ofRelation? given).1] at missing
      cases missing
  | case7 closed current relation rest join given noRedirect empty =>
      have here := (lastRelation_relation.mp placed).1
      rw [same, empty, (isRedirect_of_isJoin given).1] at here
      cases here
  | case8 closed current relation rest join given noRedirect started
      induction =>
      obtain ⟨noRedirection, joins, _⟩ := isRedirect_of_isJoin given
      have placedBehind := (lastRelation_relation.mp placed).2
      obtain ⟨stopped, reason, stray⟩ :=
        induction failed (samePlace_join noRedirection) placedBehind
      have later : Stray (Token.isJoin (.relation relation)) rest stopped := by
        rw [Token.isJoin, joins]
        exact stray
      exact ⟨stopped, reason, stray_cons.mpr (.inr later)⟩
  | case9 closed current relation rest noJoin noRedirect stops =>
      cases failed
      cases eq_background noRedirect noJoin
      have here := (lastRelation_relation.mp placed).1
      rw [same] at here
      have started : current.isEmpty = false := by
        simpa [Relation.isRedirect] using here
      have more : rest ≠ [] := by simpa [started] using stops
      exact ⟨.background, rfl, stray_cons.mpr (.inl ⟨rfl, .inr ⟨rfl, more⟩⟩)⟩
  | case10 => cases failed

/-- The compiler reads no token list with a stray relation. -/
theorem not_stray_of_readTokens
    {result : List (Command × Join) × Command × Bool}
    (read : readTokens closed current tokens = .ok result)
    (relation : Relation) :
    ¬Stray current.isEmpty tokens relation := by
  fun_induction readTokens closed current tokens with
  | case1 => exact not_stray_nil _ _
  | case2 closed current text rest induction =>
      rw [stray_cons]
      rintro (⟨impossible, _⟩ | stray)
      · cases impossible
      · rw [isEmpty_word] at induction
        exact induction read stray
  | case3 => cases read
  | case4 closed current found operator given started file rest induction =>
      obtain ⟨redirects, noJoin, noBackground⟩ :=
        isRedirect_of_ofRelation? given
      have behind : (current.redirect ⟨operator, file⟩).isEmpty = false := by
        simpa [Command.redirect, Command.isEmpty] using started
      rw [behind] at induction
      rw [stray_cons, stray_cons]
      rintro (⟨same, ⟨_, begins⟩ | ⟨background, _⟩⟩ | ⟨impossible, _⟩ | stray)
      · exact started begins
      · cases same
        exact noBackground background
      · cases impossible
      · exact induction read stray
  | case5 => cases read
  | case6 => cases read
  | case7 => cases read
  | case8 closed current found rest join given noRedirect started induction =>
      obtain ⟨noRedirection, joins, noBackground⟩ := isRedirect_of_isJoin given
      rw [stray_cons]
      rintro (⟨same, ⟨redirects, _⟩ | ⟨background, _⟩⟩ | stray)
      · cases same
        rw [noRedirection] at redirects
        cases redirects
      · cases same
        exact noBackground background
      · rw [Token.isJoin, joins] at stray
        exact induction read stray
  | case9 => cases read
  | case10 closed current found rest noJoin noRedirect goesOn =>
      rw [Bool.or_eq_true, not_or] at goesOn
      have ended : rest = [] := by simpa using goesOn.2
      subst ended
      rw [stray_cons]
      rintro (⟨same, ⟨redirects, _⟩ | ⟨_, more⟩⟩ | stray)
      · cases same
        cases eq_background noRedirect noJoin
        cases redirects
      · exact more rfl
      · exact not_stray_nil _ _ stray

/-- Tokens whose last join has no command behind it do not pass the check,
unless that join is `;`. -/
theorem closeLine_of_placed {background : Bool}
    (read : readTokens [] Command.empty tokens =
      .ok (closed, current, background))
    (placed : checkPlacement tokens true = .ok ()) :
    ∃ commands, closeLine closed current = .ok commands := by
  rw [checkPlacement_eq_ok_iff] at placed
  obtain ⟨last, found, complete⟩ := placed
  cases reading_of_readTokens none read with
  | intro joined pending background shape ready =>
      cases pending with
      | some clause => exact ⟨_, rfl⟩
      | none =>
          have foreground : background = false := by
            cases background with
            | false => rfl
            | true => cases ready rfl
          subst foreground
          rcases List.eq_nil_or_concat joined with rfl |
            ⟨front, ⟨clause, sign⟩, rfl⟩
          · exact ⟨_, rfl⟩
          · have tokensBehind : tokens =
                joinedTokens front ++ clause.tokens ++
                  [.relation sign.relation] := by
              simpa [joinedTokens, pendingTokens,
                List.concat_eq_append] using shape
            rw [tokensBehind, lastRelation_joined, lastRelation_sign] at found
            cases found
            have awaitsNothing := (complete sign.relation rfl).2 rfl
            have final : sign = .semi := by
              cases sign with
              | semi => rfl
              | pipe | and | or => cases awaitsNothing
            have closes := closeLine_sign
              (front.map fun entry => (entry.1.command, entry.2.join))
                clause.command sign
            rw [if_pos final] at closes
            rw [List.concat_eq_append, List.map_append, List.nil_append]
            exact ⟨_, closes⟩

theorem stray_of_compile {error : LineError}
    (placed : checkPlacement tokens true = .ok ())
    (failed : compile tokens = .error error) :
    ∃ relation, error = .unexpected relation ∧ Stray true tokens relation := by
  obtain ⟨last, found, complete⟩ := checkPlacement_eq_ok_iff.mp placed
  rw [compile] at failed
  cases read : readTokens [] Command.empty tokens with
  | error reason =>
      rw [read] at failed
      cases failed
      exact stray_of_readTokens read samePlace_start found fun r here =>
        (complete r here).1
  | ok result =>
      obtain ⟨closed, current, background⟩ := result
      obtain ⟨commands, closes⟩ := closeLine_of_placed read placed
      simp only [read, closes, bind, Except.bind] at failed
      cases failed

theorem not_stray_of_compile {sequence : Sequence}
    (compiled : compile tokens = .ok sequence)
    (relation : Relation) : ¬Stray true tokens relation := by
  rw [compile] at compiled
  cases read : readTokens [] Command.empty tokens with
  | error error =>
      rw [read] at compiled
      cases compiled
  | ok result => exact not_stray_of_readTokens read relation

theorem checkPlacement_of_compile {sequence : Sequence}
    (compiled : compile tokens = .ok sequence) (complete : Bool) :
    checkPlacement tokens complete = .ok () := by
  rcases exists_line_of_compile compiled with rfl | ⟨line, rfl⟩
  · cases complete <;> rfl
  · exact checkPlacement_line line complete

theorem awaitsCommand_of_compile {sequence : Sequence}
    (compiled : compile tokens = .ok sequence) :
    Lexer.awaitsCommand tokens = false := by
  rcases exists_line_of_compile compiled with rfl | ⟨line, rfl⟩
  · rfl
  · exact Lexer.awaitsCommand_line line

end Sequence

namespace Lexer

variable {lexer : Lexer} {line : String} {tokens : List Token}

theorem awaitsCommand_of_lastRelation {last : Option Relation} {first : Bool}
    (found : Token.lastRelation none first tokens = .ok last)
    (done : awaitsCommand tokens = false) :
    ∀ relation ∈ last, relation.awaitsCommand = false := by
  intro relation here
  rw [Token.lastRelation_eq found] at here
  unfold awaitsCommand at done
  cases ending : tokens.getLast? with
  | none => simp [ending] at here
  | some token =>
      rw [ending] at here done
      cases token with
      | word text => cases here
      | relation r =>
          cases here
          exact done

/-- A line is complete when its tokens pass the check for tokens that may go on,
and no relation at their end awaits a command. -/
theorem complete_iff :
    (lexer.feed line).1 = .ok (.complete tokens) ↔
      (lexer.scan line.toList).mode = .normal ∧
        (lexer.scan line.toList).endWord.tokens = tokens ∧
        Token.checkPlacement tokens false = .ok () ∧
        awaitsCommand tokens = false := by
  rw [feed, endOfLine]
  cases (lexer.scan line.toList).mode with
  | normal =>
      dsimp only
      cases placed : Token.checkPlacement
        (lexer.scan line.toList).endWord.tokens false with
      | error error =>
          constructor
          · nofun
          · rintro ⟨_, rfl, impossible, _⟩
            rw [placed] at impossible
            cases impossible
      | ok =>
          dsimp only
          split
          · next awaits =>
              constructor
              · nofun
              · rintro ⟨_, rfl, _, done⟩
                rw [awaits] at done
                cases done
          · next done =>
              constructor
              · intro complete
                cases complete
                exact ⟨rfl, rfl, placed, by simpa using done⟩
              · rintro ⟨_, rfl, _, _⟩
                rfl
  | escaped | doubleQuoteEscaped | singleQuote | doubleQuote | backQuote =>
      constructor
      · nofun
      · rintro ⟨impossible, _⟩
        cases impossible

theorem checkPlacement_of_complete
    (complete : (lexer.feed line).1 = .ok (.complete tokens)) :
    Token.checkPlacement tokens true = .ok () := by
  obtain ⟨_, _, placed, done⟩ := complete_iff.mp complete
  rw [Token.checkPlacement_eq_ok_iff] at placed
  obtain ⟨last, found, targets⟩ := placed
  have awaitsNothing := awaitsCommand_of_lastRelation found done
  exact Token.checkPlacement_eq_ok_iff.mpr
    ⟨last, found, fun relation here =>
      ⟨(targets relation here).1, fun _ => awaitsNothing relation here⟩⟩

theorem finish_eq_ok_iff :
    lexer.finish.1 = .ok tokens ↔
      lexer.mode = .normal ∧ lexer.endWord.tokens = tokens ∧
        Token.checkPlacement tokens true = .ok () := by
  unfold finish
  cases lexer.mode with
  | normal =>
      dsimp only
      cases placed : Token.checkPlacement lexer.endWord.tokens true with
      | error error =>
          constructor
          · nofun
          · rintro ⟨_, rfl, impossible⟩
            rw [placed] at impossible
            cases impossible
      | ok =>
          constructor
          · intro finished
            cases finished
            exact ⟨rfl, rfl, placed⟩
          · rintro ⟨_, rfl, _⟩
            rfl
  | escaped | doubleQuoteEscaped | singleQuote | doubleQuote | backQuote =>
      constructor
      · nofun
      · rintro ⟨impossible, _⟩
        cases impossible

end Lexer

namespace Sequence

open Token

theorem isJoin_of_stray {first : Bool} {tokens : List Token}
    {relation : Relation} (stray : Stray first tokens relation) :
    relation.isJoin = false := by
  obtain ⟨_, _, _, ⟨redirects, _⟩ | ⟨rfl, _⟩⟩ := stray
  · cases relation with
    | redirectIn | redirectOut | redirectAppend => rfl
    | semi | pipe | or | background | and => cases redirects
  · rfl

/-- The lexer never refuses what the compiler accepts, and all that it gives has
passed its check.  In what has passed, only a stray relation stops the compiler,
and it always does. -/
theorem compile_fails_iff_stray (tokens : List Token) :
    (∀ sequence, compile tokens = .ok sequence →
      checkPlacement tokens true = .ok () ∧
      (∀ (lexer : Lexer) (line : String),
        (lexer.scan line.toList).mode = .normal →
        (lexer.scan line.toList).endWord.tokens = tokens →
          (lexer.feed line).1 = .ok (.complete tokens)) ∧
      (∀ lexer : Lexer, lexer.mode = .normal → lexer.endWord.tokens = tokens →
        lexer.finish.1 = .ok tokens)) ∧
    (∀ (lexer : Lexer) (line : String),
      (lexer.feed line).1 = .ok (.complete tokens) →
      checkPlacement tokens true = .ok ()) ∧
    (∀ lexer : Lexer, lexer.finish.1 = .ok tokens →
      checkPlacement tokens true = .ok ()) ∧
    (checkPlacement tokens true = .ok () →
      ((∃ error, compile tokens = .error error) ↔
        ∃ relation, Stray true tokens relation) ∧
      ∀ error, compile tokens = .error error →
        (∃ relation,
          error = .unexpected relation ∧ Stray true tokens relation) ∧
        error ≠ .endOfInput ∧ (∀ relation, error ≠ .missingTarget relation) ∧
        ∀ relation, relation.isJoin = true → error ≠ .unexpected relation) := by
  refine ⟨?_, ?_, ?_, ?_⟩
  · intro sequence compiled
    refine ⟨checkPlacement_of_compile compiled true, ?_, ?_⟩
    · intro lexer line normal scanned
      have placed := checkPlacement_of_compile compiled false
      exact Lexer.complete_iff.mpr ⟨normal, scanned, placed,
        awaitsCommand_of_compile compiled⟩
    · intro lexer normal scanned
      have placed := checkPlacement_of_compile compiled true
      exact Lexer.finish_eq_ok_iff.mpr ⟨normal, scanned, placed⟩
  · intro lexer line complete
    exact Lexer.checkPlacement_of_complete complete
  · intro lexer finished
    exact (Lexer.finish_eq_ok_iff.mp finished).2.2
  · intro placed
    constructor
    · constructor
      · rintro ⟨error, failed⟩
        obtain ⟨relation, _, stray⟩ := stray_of_compile placed failed
        exact ⟨relation, stray⟩
      · rintro ⟨relation, stray⟩
        cases compiled : compile tokens with
        | error error => exact ⟨error, rfl⟩
        | ok sequence =>
            exact absurd stray (not_stray_of_compile compiled relation)
    · intro error failed
      obtain ⟨relation, rfl, stray⟩ := stray_of_compile placed failed
      refine ⟨⟨relation, rfl, stray⟩, nofun, nofun, ?_⟩
      rintro other joins same
      cases same
      rw [isJoin_of_stray stray] at joins
      cases joins

theorem compile_fails_iff_stray_redirectionBehindSemi :
    ((Lexer.fresh.feed "a <f&& b &").1 = .ok (.complete
        [.word "a", .relation .redirectIn, .word "f", .relation .and, .word "b",
          .relation .background]) ∧
      (Lexer.fresh.scan "a <f&& b &".toList).finish.1 = .ok
        [.word "a", .relation .redirectIn, .word "f", .relation .and, .word "b",
          .relation .background]) ∧
    checkPlacement [.word "a", .relation .semi, .relation .redirectOut,
      .word "f"] true = .ok () ∧
      ∃ relation,
        compile [.word "a", .relation .semi, .relation .redirectOut,
          .word "f"] =
          .error (.unexpected relation) ∧
        Stray true [.word "a", .relation .semi, .relation .redirectOut,
          .word "f"] relation := by
  constructor
  · have compiled : compile
        [.word "a", .relation .redirectIn, .word "f", .relation .and, .word "b",
          .relation .background] = .ok _ := rfl
    obtain ⟨_, feeds, finishes⟩ := (compile_fails_iff_stray _).1 _ compiled
    exact ⟨feeds .fresh "a <f&& b &" (by cbv) (by cbv),
      finishes _ (by cbv) (by cbv)⟩
  · have complete : (Lexer.fresh.feed "a;>f").1 = .ok (.complete
        [.word "a", .relation .semi, .relation .redirectOut, .word "f"]) := by
      cbv
    have placed := (compile_fails_iff_stray _).2.1 .fresh "a;>f" complete
    have failed :
        compile [.word "a", .relation .semi, .relation .redirectOut,
          .word "f"] =
        .error (.unexpected .redirectOut) := rfl
    obtain ⟨⟨relation, same, stray⟩, _⟩ :=
      ((compile_fails_iff_stray _).2.2.2 placed).2 _ failed
    exact ⟨placed, relation, failed.trans (congrArg Except.error same), stray⟩

end Sequence

end JobShell
