import Mathlib.Data.List.Permutation
import JobShell.Interpreter
import JobShell.Proofs.System.Outcome

/-!
# What waits to be compiled and executed

The steps of the interpreter hand a command on from one to the next.  What waits
between two steps can be read off the calls made so far: the tokens that were
read last and have not been compiled or forgotten since, and the sequence that
was compiled last.  A call that reads nothing whole leaves older tokens waiting.
-/

namespace JobShell

namespace Interpreter

/-- A call, with what it has come to. -/
inductive Event where
  | parsed (outcome : Except LineError Feed)
  | finished (outcome : Except LineError (List Token))
  | compiled (outcome : Except Failure Unit)
  | executed (outcome : Except Failure Int)
  | discarded

namespace Event

/-- The tokens of a command that has been read whole. -/
def read? : Event → Option (List Token)
  | parsed (.ok (.complete tokens)) => some tokens
  | finished (.ok tokens) => some tokens
  | _ => none

/-- The call takes input, or drops what has been taken. -/
def IsInput : Event → Prop
  | parsed _ | finished _ | discarded => True
  | compiled _ | executed _ => False

/-- Tokens that wait go on waiting. -/
def LeavesTokens : Event → Prop
  | parsed (.ok .needsMore) | parsed (.error _) | finished (.error _)
  | executed _ => True
  | parsed (.ok (.complete _)) | finished (.ok _) | compiled _ | discarded =>
    False

/-- A sequence that waits goes on waiting. -/
def LeavesCompiled : Event → Prop
  | finished _ | compiled (.error _) => True
  | parsed _ | compiled (.ok _) | executed _ | discarded => False

/-- Some event was such a start, and all events behind it keep what it has
started. -/
def Since (starts : List Event → Event → Prop) (keeps : Event → Prop)
    (log : List Event) : Prop :=
  ∃ front event back, log = front ++ event :: back ∧ starts front event ∧
    ∀ later ∈ back, keeps later

theorem not_since_nil {starts : List Event → Event → Prop}
    {keeps : Event → Prop} :
    ¬Since starts keeps [] := by
  rintro ⟨front, event, back, shape, _⟩
  simp at shape

theorem since_concat {starts : List Event → Event → Prop} {keeps : Event → Prop}
    {log : List Event} {event : Event} :
    Since starts keeps (log ++ [event]) ↔
      starts log event ∨ (keeps event ∧ Since starts keeps log) := by
  constructor
  · rintro ⟨front, start, back, shape, begun, kept⟩
    rcases List.eq_nil_or_concat back with rfl | ⟨middle, last, rfl⟩
    · obtain ⟨rfl, same⟩ := List.append_inj' shape rfl
      cases same
      exact .inl begun
    · rw [List.concat_eq_append] at shape kept
      rw [← List.cons_append, ← List.append_assoc] at shape
      obtain ⟨rfl, same⟩ := List.append_inj' shape rfl
      cases same
      have here := kept event (by simp)
      have before : ∀ later ∈ middle, keeps later :=
        fun later member => kept later (by simp [member])
      exact .inr ⟨here, front, start, middle, rfl, begun, before⟩
  · rintro (begun | ⟨here, front, start, back, rfl, begun, kept⟩)
    · exact ⟨log, event, [], rfl, begun, nofun⟩
    · refine ⟨front, start, back ++ [event], by simp, begun, ?_⟩
      intro later member
      rcases List.mem_append.mp member with earlier | last
      · exact kept later earlier
      · rw [List.mem_singleton.mp last]
        exact here

end Event

open Event

/-- After these calls, these tokens wait to be compiled. -/
def AwaitsCompiling (log : List Event) (tokens : List Token) : Prop :=
  Since (fun _ event => event.read? = some tokens) LeavesTokens log

/-- After these calls, this sequence waits to be executed: it has been compiled
from the tokens that waited then. -/
def AwaitsExecution (log : List Event) (sequence : Sequence) : Prop :=
  Since (fun front event => event = .compiled (.ok ()) ∧
    ∃ tokens,
      AwaitsCompiling front tokens ∧ Sequence.compile tokens = .ok sequence)
    LeavesCompiled log

/-- One call, under every behaviour of the system. -/
inductive Performs : Interpreter → Event → Interpreter → Prop where
  | parse (interpreter : Interpreter) (line : String) :
      Performs interpreter (.parsed (interpreter.lexer.feed line).1)
        (interpreter.parse line).2
  | finish (interpreter : Interpreter) :
      Performs interpreter (.finished interpreter.lexer.finish.1)
        interpreter.finish.2
  | compile (interpreter : Interpreter) :
      Performs interpreter (.compiled interpreter.compile.1)
        interpreter.compile.2
  | execute {interpreter after : Interpreter} {outcome : Except Failure Int}
      (ends : interpreter.execute.MayYield (outcome, after)) :
      Performs interpreter (.executed outcome) after
  | discard (interpreter : Interpreter) :
      Performs interpreter .discarded interpreter.discard

/-- Calls one after the other, in any order. -/
inductive Runs (start : Interpreter) : List Event → Interpreter → Prop where
  | nothing : Runs start [] start
  | call {log : List Event} {event : Event} {interpreter after : Interpreter}
      (ran : Runs start log interpreter)
      (performs : Performs interpreter event after) :
      Runs start (log ++ [event]) after

variable {interpreter after : Interpreter} {event : Event}

/-- The answer to a line says whether a command has been read whole. -/
theorem parse_eq_ready_iff (interpreter : Interpreter) (line : String) :
    (interpreter.parse line).1 = .ok .ready ↔
      ∃ tokens,
        (Event.parsed (interpreter.lexer.feed line).1).read? = some tokens := by
  unfold parse
  rcases interpreter.lexer.feed line with ⟨outcome, lexer⟩
  rcases outcome with error | feed
  · simp [read?]
  · cases feed <;> simp [read?]

theorem finish_eq_ready_iff (interpreter : Interpreter) :
    interpreter.finish.1 = .ok .ready ↔
      ∃ tokens,
        (Event.finished interpreter.lexer.finish.1).read? = some tokens := by
  unfold finish
  rcases interpreter.lexer.finish with ⟨outcome, lexer⟩
  cases outcome <;> simp [read?]

section Compile

variable {tokens : List Token}

theorem compile_of_nothing (waiting : interpreter.tokens = none) :
    interpreter.compile = (.error (.line .nothingToCompile), interpreter) := by
  rw [compile, waiting]

theorem compile_of_ok {sequence : Sequence}
    (waiting : interpreter.tokens = some tokens)
    (read : Sequence.compile tokens = .ok sequence) :
    interpreter.compile =
      (.ok (),
        { interpreter with tokens := none, compiled := some sequence }) := by
  simp only [compile, waiting, read]

theorem compile_of_error {error : LineError}
    (waiting : interpreter.tokens = some tokens)
    (failed : Sequence.compile tokens = .error error) :
    interpreter.compile =
      (.error (.line error), { interpreter with tokens := none }) := by
  simp only [compile, waiting, failed]

end Compile

theorem mayYield_inSession {α : Type} {action : Shell α}
    {outcome : Except Failure α}
    (ends : (interpreter.inSession action).MayYield (outcome, after)) :
    ∃ session, action.MayEnd interpreter.session outcome session ∧
      after = { interpreter with session } := by
  obtain ⟨⟨ended, session⟩, runs, same⟩ := Interaction.mayYield_bind.mp ends
  cases same
  exact ⟨session, runs, rfl⟩

theorem slots_of_execute {outcome : Except Failure Int}
    (ends : interpreter.execute.MayYield (outcome, after)) :
    after.tokens = interpreter.tokens ∧ after.compiled = none := by
  unfold execute at ends
  cases compiled : interpreter.compiled with
  | none =>
      rw [compiled] at ends
      cases ends
      exact ⟨rfl, compiled⟩
  | some sequence =>
      rw [compiled] at ends
      obtain ⟨session, _, rfl⟩ := mayYield_inSession ends
      exact ⟨rfl, rfl⟩

/-- One call fills the place for tokens, leaves it as it is, or empties it. -/
theorem Performs.tokens (performs : Performs interpreter event after)
    (tokens : List Token) :
    after.tokens = some tokens ↔
      event.read? = some tokens ∨
      (event.LeavesTokens ∧ interpreter.tokens = some tokens) := by
  cases performs with
  | parse line =>
      unfold Interpreter.parse
      rcases interpreter.lexer.feed line with ⟨outcome, lexer⟩
      rcases outcome with error | feed
      · simp [read?, LeavesTokens]
      · cases feed <;> simp [read?, LeavesTokens]
  | finish =>
      unfold Interpreter.finish
      rcases interpreter.lexer.finish with ⟨outcome, lexer⟩
      cases outcome <;> simp [read?, LeavesTokens]
  | compile =>
      have taken : interpreter.compile.2.tokens = none := by
        cases waiting : interpreter.tokens with
        | none => rw [compile_of_nothing waiting, waiting]
        | some tokens =>
            cases read : Sequence.compile tokens with
            | error error => rw [compile_of_error waiting read]
            | ok sequence => rw [compile_of_ok waiting read]
      simp [read?, LeavesTokens, taken]
  | execute ends => simp [read?, LeavesTokens, (slots_of_execute ends).1]
  | discard => simp [read?, LeavesTokens, Interpreter.discard]

/-- Compiling fills the place for a sequence from the tokens that wait. -/
theorem Performs.compiled (performs : Performs interpreter event after)
    (sequence : Sequence) :
    after.compiled = some sequence ↔
      (event = .compiled (.ok ()) ∧
        ∃ tokens, interpreter.tokens = some tokens ∧
          Sequence.compile tokens = .ok sequence) ∨
      (event.LeavesCompiled ∧ interpreter.compiled = some sequence) := by
  cases performs with
  | parse line =>
      unfold Interpreter.parse
      rcases interpreter.lexer.feed line with ⟨outcome, lexer⟩
      rcases outcome with error | feed
      · simp [LeavesCompiled]
      · cases feed <;> simp [LeavesCompiled]
  | finish =>
      unfold Interpreter.finish
      rcases interpreter.lexer.finish with ⟨outcome, lexer⟩
      cases outcome <;> simp [LeavesCompiled]
  | compile =>
      cases waiting : interpreter.tokens with
      | none => simp [compile_of_nothing waiting, LeavesCompiled]
      | some tokens =>
          cases read : Sequence.compile tokens with
          | error error =>
              simp [compile_of_error waiting read, LeavesCompiled, read]
          | ok result => simp [compile_of_ok waiting read, LeavesCompiled, read]
  | execute ends => simp [LeavesCompiled, (slots_of_execute ends).2]
  | discard => simp [LeavesCompiled, Interpreter.discard]

variable {session : Session} {seconds : Nat} {log : List Event}

theorem awaitsCompiling_concat {tokens : List Token} :
    AwaitsCompiling (log ++ [event]) tokens ↔
      event.read? = some tokens ∨
      (event.LeavesTokens ∧ AwaitsCompiling log tokens) :=
  since_concat

theorem awaitsExecution_concat {sequence : Sequence} :
    AwaitsExecution (log ++ [event]) sequence ↔
      (event = .compiled (.ok ()) ∧
        ∃ tokens,
          AwaitsCompiling log tokens ∧ Sequence.compile tokens = .ok sequence) ∨
      (event.LeavesCompiled ∧ AwaitsExecution log sequence) :=
  since_concat

theorem Runs.tokens_iff (ran : Runs (ofSession session seconds) log interpreter)
    (tokens : List Token) : interpreter.tokens = some tokens ↔
      AwaitsCompiling log tokens := by
  induction ran with
  | nothing =>
      constructor
      · nofun
      · exact fun waits => absurd waits not_since_nil
  | call _ performs induction =>
      rw [performs.tokens, induction, awaitsCompiling_concat]

theorem Runs.compiled_iff
    (ran : Runs (ofSession session seconds) log interpreter)
    (sequence : Sequence) :
    interpreter.compiled = some sequence ↔ AwaitsExecution log sequence := by
  induction ran with
  | nothing =>
      constructor
      · nofun
      · exact fun waits => absurd waits not_since_nil
  | call ran performs induction =>
      rw [performs.compiled, induction, awaitsExecution_concat]
      simp only [ran.tokens_iff]

theorem Runs.compile_ok_iff
    (ran : Runs (ofSession session seconds) log interpreter) :
    interpreter.compile.1 = .ok () ↔
      ∃ tokens sequence, AwaitsCompiling log tokens ∧
        Sequence.compile tokens = .ok sequence := by
  cases waiting : interpreter.tokens with
  | none =>
      rw [compile_of_nothing waiting]
      constructor
      · nofun
      · rintro ⟨tokens, _, waits, _⟩
        rw [← ran.tokens_iff, waiting] at waits
        cases waits
  | some tokens =>
      have waits := (ran.tokens_iff tokens).mp waiting
      cases read : Sequence.compile tokens with
      | ok sequence =>
          rw [compile_of_ok waiting read]
          exact ⟨fun _ => ⟨tokens, sequence, waits, read⟩, fun _ => rfl⟩
      | error error =>
          rw [compile_of_error waiting read]
          constructor
          · nofun
          · rintro ⟨others, sequence, waitsToo, readToo⟩
            rw [← ran.tokens_iff, waiting] at waitsToo
            cases waitsToo
            rw [read] at readToo
            cases readToo

/-- A line is only given, or the input ended, when no tokens wait to be
compiled, and the input is not ended while a sequence waits to be executed. -/
structure InOrder (log : List Event) : Prop where
  parsed : ∀ {front back outcome}, log = front ++ .parsed outcome :: back →
    ∀ tokens, ¬AwaitsCompiling front tokens
  finished : ∀ {front back outcome}, log = front ++ .finished outcome :: back →
    (∀ tokens, ¬AwaitsCompiling front tokens) ∧
    ∀ sequence, ¬AwaitsExecution front sequence

theorem InOrder.of_append {front back : List Event}
    (inOrder : InOrder (front ++ back)) :
    InOrder front where
  parsed :=
    fun shape => inOrder.parsed (by
      rw [shape, List.append_assoc, List.cons_append])
  finished :=
    fun shape => inOrder.finished (by
      rw [shape, List.append_assoc, List.cons_append])

/-- The calls behind a command that has been read and still waits to be compiled
only try to execute. -/
theorem InOrder.awaitsCompiling (inOrder : InOrder log) {tokens : List Token}
    (waits : AwaitsCompiling log tokens) :
    Since (fun _ event => event.read? = some tokens)
      (fun later => ∃ outcome, later = .executed outcome) log := by
  obtain ⟨front, start, back, rfl, read, kept⟩ := waits
  refine ⟨front, start, back, rfl, read, ?_⟩
  intro later member
  have leaves := kept later member
  obtain ⟨middle, rest, rfl⟩ := List.append_of_mem member
  have here : front ++ start :: (middle ++ later :: rest) =
      (front ++ start :: middle) ++ later :: rest := by simp
  have waiting : AwaitsCompiling (front ++ start :: middle) tokens :=
    ⟨front, start, middle, rfl, read,
      fun other earlier => kept other (by simp [earlier])⟩
  cases later with
  | parsed outcome => exact absurd waiting (inOrder.parsed here tokens)
  | finished outcome => exact absurd waiting ((inOrder.finished here).1 tokens)
  | compiled outcome => cases leaves
  | executed outcome => exact ⟨outcome, rfl⟩
  | discarded => cases leaves

theorem InOrder.awaitsExecution (inOrder : InOrder log) {sequence : Sequence}
    (waits : AwaitsExecution log sequence) :
    Since
      (fun _ event => ∃ tokens, event.read? = some tokens ∧
        Sequence.compile tokens = .ok sequence)
      (fun later => ¬later.IsInput) log := by
  obtain ⟨front, start, back, rfl, ⟨rfl, tokens, waiting, compiled⟩, kept⟩ :=
    waits
  obtain ⟨before, reading, middle, rfl, read, executes⟩ :=
    inOrder.of_append.awaitsCompiling waiting
  refine ⟨before, reading, middle ++ .compiled (.ok ()) :: back, by simp,
    ⟨tokens, read, compiled⟩, ?_⟩
  intro later member
  rcases List.mem_append.mp member with earlier | behind
  · obtain ⟨outcome, rfl⟩ := executes later earlier
    exact id
  · rcases List.mem_cons.mp behind with rfl | behind
    · exact id
    · have leaves := kept later behind
      obtain ⟨between, rest, rfl⟩ := List.append_of_mem behind
      have here : (before ++ reading :: middle) ++ .compiled (.ok ()) ::
          (between ++ later :: rest) =
          ((before ++ reading :: middle) ++ .compiled (.ok ()) :: between) ++
            later :: rest := by
        simp
      have ready : AwaitsExecution
          ((before ++ reading :: middle) ++ .compiled (.ok ()) ::
            between) sequence :=
        ⟨_, _, between, rfl, ⟨rfl, tokens, waiting, compiled⟩,
          fun other earlier => kept other (by simp [earlier])⟩
      cases later with
      | finished outcome =>
          exact absurd ready ((inOrder.finished here).2 sequence)
      | compiled outcome => exact id
      | parsed outcome => cases leaves
      | executed outcome => cases leaves
      | discarded => cases leaves

/-- After any calls, compiling succeeds just for the tokens that were read last
and not compiled or forgotten since, and executing runs the sequence compiled
from them, or nothing at all.  Where the calls come in order, these are the
tokens of the last call that took input. -/
theorem executes_only_what_awaits
    (ran : Runs (ofSession session seconds) log interpreter) :
    (∀ line, (interpreter.parse line).1 = .ok .ready ↔
      ∃ tokens,
        (Event.parsed (interpreter.lexer.feed line).1).read? = some tokens) ∧
    (interpreter.finish.1 = .ok .ready ↔
      ∃ tokens,
        (Event.finished interpreter.lexer.finish.1).read? = some tokens) ∧
    (interpreter.compile.1 = .ok () ↔
      ∃ tokens sequence,
        AwaitsCompiling log tokens ∧ Sequence.compile tokens = .ok sequence) ∧
    ((∀ tokens, ¬AwaitsCompiling log tokens) →
      interpreter.compile = (.error (.line .nothingToCompile), interpreter)) ∧
    (∀ sequence, AwaitsExecution log sequence →
      interpreter.execute =
        { interpreter with compiled := none }.inSession
          (Shell.execute sequence)) ∧
    ((∀ sequence, ¬AwaitsExecution log sequence) →
      interpreter.execute =
        pure (.error (.line .nothingToExecute), interpreter)) ∧
    (InOrder log →
      (interpreter.compile.1 = .ok () → ∃ tokens,
        Since (fun _ event => event.read? = some tokens)
          (fun later => ∃ outcome, later = .executed outcome) log) ∧
      (∀ sequence, AwaitsExecution log sequence →
        Since
          (fun _ event => ∃ tokens, event.read? = some tokens ∧
            Sequence.compile tokens = .ok sequence)
          (fun later => ¬later.IsInput) log)) := by
  refine ⟨parse_eq_ready_iff interpreter, finish_eq_ready_iff interpreter,
    ran.compile_ok_iff, ?_, ?_, ?_, ?_⟩
  · intro nothing
    apply compile_of_nothing
    cases waiting : interpreter.tokens with
    | none => rfl
    | some tokens =>
        exact absurd ((ran.tokens_iff tokens).mp waiting) (nothing tokens)
  · intro sequence waits
    rw [execute, (ran.compiled_iff sequence).mpr waits]
  · intro nothing
    cases waiting : interpreter.compiled with
    | none => rw [execute, waiting]
    | some sequence =>
        exact absurd ((ran.compiled_iff sequence).mp waiting) (nothing sequence)
  · intro inOrder
    constructor
    · intro compiles
      obtain ⟨tokens, _, waits, _⟩ := ran.compile_ok_iff.mp compiles
      exact ⟨tokens, inOrder.awaitsCompiling waits⟩
    · intro sequence waits
      exact inOrder.awaitsExecution waits

section Echo

def echoStart : Interpreter := ofSession (.fresh 1 "/" .empty) 30

def echoTokens : List Token := [.word "echo", .word "one"]

theorem runs_echo :
    Runs echoStart [.parsed (.ok (.complete echoTokens))]
      (echoStart.parse "echo one").2 := by
  have read : (echoStart.lexer.feed "echo one").1 =
      .ok (.complete echoTokens) := by cbv
  rw [← read]
  exact .call .nothing (.parse echoStart "echo one")

/-- A second line that begins with `|` is no command. -/
theorem runs_echoThenPipe :
    Runs echoStart
      [.parsed (.ok (.complete echoTokens)),
        .parsed (.error (.unexpected .pipe))]
      ((echoStart.parse "echo one").2.parse "| x").2 := by
  have failed : ((echoStart.parse "echo one").2.lexer.feed "| x").1 =
      .error (.unexpected .pipe) := by cbv
  rw [← failed]
  exact .call runs_echo (.parse _ "| x")

theorem awaitsCompiling_echoThenPipe :
    AwaitsCompiling
      [.parsed (.ok (.complete echoTokens)),
        .parsed (.error (.unexpected .pipe))] echoTokens :=
  ⟨[], _, [.parsed (.error (.unexpected .pipe))], rfl, rfl, by
    simp [LeavesTokens]⟩

theorem executes_only_what_awaits_echoThenPipe :
    (∃ interpreter,
      Runs echoStart
        [.parsed (.ok (.complete echoTokens)),
          .parsed (.error (.unexpected .pipe))]
        interpreter ∧
      interpreter.compile.1 = .ok ()) ∧
    ∃ interpreter,
      Runs echoStart [.parsed (.ok (.complete echoTokens))] interpreter ∧
      InOrder [.parsed (.ok (.complete echoTokens))] ∧
      ∃ tokens, Since (fun _ event => event.read? = some tokens)
        (fun later => ∃ outcome, later = .executed outcome)
        [.parsed (.ok (.complete echoTokens))] := by
  have compiles : Sequence.compile echoTokens = .ok _ := rfl
  constructor
  · obtain ⟨_, _, succeeds, _⟩ := executes_only_what_awaits runs_echoThenPipe
    exact ⟨_, runs_echoThenPipe,
      succeeds.mpr ⟨_, _, awaitsCompiling_echoThenPipe, compiles⟩⟩
  · have waits :
        AwaitsCompiling [.parsed (.ok (.complete echoTokens))] echoTokens :=
      ⟨[], _, [], rfl, rfl, nofun⟩
    have inOrder : InOrder [.parsed (.ok (.complete echoTokens))] := by
      constructor
      · intro front back outcome shape tokens
        cases front with
        | nil => exact not_since_nil
        | cons first rest => simp at shape
      · intro front back outcome shape
        have member : Event.finished outcome ∈
            [Event.parsed (.ok (.complete echoTokens))] := by
          rw [shape]
          simp
        simp at member
    obtain ⟨_, _, succeeds, _, _, _, ordered⟩ :=
      executes_only_what_awaits runs_echo
    exact ⟨_, runs_echo, inOrder,
      (ordered inOrder).1 (succeeds.mpr ⟨_, _, waits, compiles⟩)⟩

/-- A line that is no command does not take away the command that was read
before it. -/
theorem not_compile_only_lastInput :
    ¬∀ (session : Session) (seconds : Nat) (log : List Event)
      (interpreter : Interpreter),
      Runs (ofSession session seconds) log interpreter →
      interpreter.compile.1 = .ok () →
        ∃ tokens, Since (fun _ event => event.read? = some tokens)
          (fun later => ¬later.IsInput) log := by
  intro onlyLast
  have compiles : Sequence.compile echoTokens = .ok _ := rfl
  have succeeds := Runs.compile_ok_iff runs_echoThenPipe |>.mpr
    ⟨_, _, awaitsCompiling_echoThenPipe, compiles⟩
  obtain ⟨tokens, last⟩ := onlyLast _ _ _ _ runs_echoThenPipe succeeds
  rw [← List.singleton_append, since_concat] at last
  rcases last with read | ⟨noInput, _⟩
  · cases read
  · exact noInput trivial

end Echo

end Interpreter

end JobShell
