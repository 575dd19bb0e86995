import JobShell.Proofs.History.Persistence

/-!
# Walking through a history

Whatever is called on a history, it answers like a list of entries with a
position in it that cannot leave the list.  An append takes the position to the
end, and the two ways of moving stop at the oldest entry and behind the newest
one.
-/

namespace JobShell.History

/-- How a history begins: without a file, or with what a file holds. -/
inductive Begun : History → Prop where
  | new : Begun empty
  | loaded {world : World} {path : String} {history : History}
      (read : load world path = .ok history) : Begun history

/-- A call on a history.  Each append meets the files as they are at its
time. -/
inductive Call where
  | append (world : World) (line : String)
  | previous
  | next

namespace Call

/-- The answers to calls that follow one another, and what is left behind
them. -/
def run {σ : Type} (answer : σ → Call → Option String × σ) :
    σ → List Call → List (Option String) × σ
  | state, [] => ([], state)
  | state, call :: calls =>
    ((answer state call).1 :: (run answer (answer state call).2 calls).1,
      (run answer (answer state call).2 calls).2)

end Call

/-- What a call answers, if it does, and what it makes of the history. -/
def answer (history : History) : Call → Option String × History
  | .append world line => (none, (appendIn world history line).1)
  | .previous => (some history.previous.1, history.previous.2)
  | .next => (some history.next.1, history.next.2)

/-- A place in a list of entries: that of an entry, or the one behind the
newest. -/
structure Position where
  entries : List String
  place : Fin (entries.length + 1)

namespace Position

def atEnd (entries : List String) : Position :=
  { entries, place := Fin.last entries.length }

/-- The entry at the position; behind the newest one there is no text. -/
def entry (position : Position) : String :=
  if inside : position.place.val < position.entries.length then
    position.entries[position.place.val]
  else ""

theorem entry_eq (position : Position) :
    position.entry = position.entries[position.place.val]?.getD "" := by
  unfold entry
  by_cases inside : position.place.val < position.entries.length
  · rw [dif_pos inside, List.getElem?_eq_getElem inside, Option.getD_some]
  · rw [dif_neg inside, List.getElem?_eq_none (Nat.le_of_not_lt inside),
      Option.getD_none]

def append (position : Position) (line : String) : Position :=
  atEnd (position.entries ++ kept [line])

/-- One step back, but not beyond the oldest entry. -/
def back (position : Position) : Position :=
  { position with place := ⟨position.place.val - 1, by omega⟩ }

/-- One step forward, but not beyond the place behind the newest entry. -/
def forward (position : Position) : Position :=
  { position with
    place := ⟨min (position.place.val + 1) position.entries.length, by omega⟩ }

def answer (position : Position) : Call → Option String × Position
  | .append _ line => (none, position.append line)
  | .previous => (some position.back.entry, position.back)
  | .next => (some position.forward.entry, position.forward)

end Position

/-- The history has these entries, and its cursor stands at this place among
them. -/
structure IsAt (history : History) (position : Position) : Prop where
  entries : history.entries = position.entries
  cursor : history.cursor = position.place.val

/-- The cursor is among the entries, and a step back reads the entry where it
comes to.  Only where there is none does it read nothing. -/
structure ReadsInside (history : History) : Prop where
  bounded : history.cursor ≤ history.entries.length
  nothing : history.entries = [] → history.previous = ("", history)
  inside : history.entries ≠ [] →
    ∃ inside : history.previous.2.cursor < history.entries.length,
      history.previous.1 = history.entries[history.previous.2.cursor]

section Step

variable {history : History} {position : Position}

theorem fst_appendIn (world : World) (history : History) (line : String) :
    (appendIn world history line).1 = history.append line := by
  unfold appendIn
  rfl

@[simp] theorem cursor_append (history : History) (line : String) :
    (history.append line).cursor = (history.append line).entries.length := by
  unfold append
  rfl

theorem Begun.isAt (begun : Begun history) :
    history.IsAt (.atEnd history.entries) := by
  refine ⟨rfl, ?_⟩
  cases begun with
  | new => rfl
  | loaded read =>
      unfold load at read
      split at read
      · cases read
        rfl
      · split at read
        · cases read
          rfl
        · cases read

theorem IsAt.append (isAt : history.IsAt position) (line : String) :
    (history.append line).IsAt (position.append line) := by
  have entries : (history.append line).entries =
      (position.append line).entries := by
    rw [entries_append, isAt.entries]
    rfl
  exact ⟨entries, by rw [cursor_append, entries]; rfl⟩

theorem IsAt.cursor_le (isAt : history.IsAt position) :
    history.cursor ≤ history.entries.length := by
  rw [isAt.cursor, isAt.entries]
  exact Nat.le_of_lt_succ position.place.isLt

/-- Without entries a step back stays where it is. -/
theorem previous_of_nil (nothing : history.entries = []) :
    history.previous = ("", history) := by
  unfold previous
  rw [nothing]
  rfl

/-- A step back reads an entry, for the cursor has come in front of the end. -/
theorem previous_of_ne_nil (isAt : history.IsAt position)
    (something : history.entries ≠ []) :
    ∃ inside : history.cursor - 1 < history.entries.length,
      history.previous =
        (history.entries[history.cursor - 1],
          { history with cursor := history.cursor - 1 }) := by
  have inside : history.cursor - 1 < history.entries.length := by
    have bounded := isAt.cursor_le
    have positive := List.length_pos_iff.mpr something
    omega
  refine ⟨inside, ?_⟩
  unfold previous
  rw [if_neg (by simpa using something)]
  exact congrArg (Prod.mk · _) (getElem!_pos history.entries _ inside)

theorem IsAt.previous (isAt : history.IsAt position) :
    history.previous.1 = position.back.entry ∧
    history.previous.2.IsAt position.back := by
  obtain ⟨entries, place, bounded⟩ := position
  obtain ⟨rfl, rfl⟩ : history.entries = entries ∧ history.cursor = place :=
    ⟨isAt.entries, isAt.cursor⟩
  by_cases something : history.entries = []
  · have atStart : history.cursor = 0 := by
      simpa [something] using isAt.cursor_le
    rw [previous_of_nil something]
    refine ⟨?_, rfl, ?_⟩
    · simp [Position.entry_eq, Position.back, something]
    · simp [Position.back, atStart]
  · obtain ⟨inside, moved⟩ := previous_of_ne_nil isAt something
    rw [moved]
    refine ⟨?_, rfl, rfl⟩
    rw [Position.entry_eq]
    simp only [Position.back, List.getElem?_eq_getElem inside, Option.getD_some]

theorem IsAt.next (isAt : history.IsAt position) :
    history.next.1 = position.forward.entry ∧
    history.next.2.IsAt position.forward := by
  obtain ⟨entries, place, bounded⟩ := position
  obtain ⟨rfl, rfl⟩ : history.entries = entries ∧ history.cursor = place :=
    ⟨isAt.entries, isAt.cursor⟩
  have moved :
      (if history.cursor < history.entries.length then history.cursor + 1
      else history.cursor) =
      min (history.cursor + 1) history.entries.length := by
    split <;> omega
  unfold History.next
  rw [moved, Position.entry_eq]
  exact ⟨rfl, rfl, rfl⟩

theorem IsAt.readsInside (isAt : history.IsAt position) :
    history.ReadsInside where
  bounded := isAt.cursor_le
  nothing := previous_of_nil
  inside := by
    intro something
    obtain ⟨inside, moved⟩ := previous_of_ne_nil isAt something
    rw [moved]
    exact ⟨inside, rfl⟩

/-- A call answers the same for a history and for its position, and both move
alike. -/
theorem IsAt.answer (isAt : history.IsAt position) (call : Call) :
    (history.answer call).1 = (position.answer call).1 ∧
      (history.answer call).2.IsAt (position.answer call).2 := by
  cases call with
  | append world line =>
      refine ⟨rfl, ?_⟩
      rw [History.answer, fst_appendIn]
      exact isAt.append line
  | previous =>
      obtain ⟨entry, moved⟩ := isAt.previous
      exact ⟨congrArg some entry, moved⟩
  | next =>
      obtain ⟨entry, moved⟩ := isAt.next
      exact ⟨congrArg some entry, moved⟩

end Step

/-- Calls that follow one another: the answers are the same, and both end at the
same place. -/
theorem IsAt.run {history : History} {position : Position}
    (isAt : history.IsAt position) (calls : List Call) :
    (Call.run History.answer history calls).1 =
      (Call.run Position.answer position calls).1 ∧
      (Call.run History.answer history calls).2.IsAt
        (Call.run Position.answer position calls).2 := by
  induction calls generalizing history position with
  | nil => exact ⟨rfl, isAt⟩
  | cons call calls induction =>
      obtain ⟨first, moved⟩ := isAt.answer call
      obtain ⟨others, ended⟩ := induction moved
      exact ⟨by rw [Call.run, Call.run, first, others], ended⟩

/-- A history that is new or loaded answers all calls like a position in its
entries that begins at the end, and after any calls nothing is read but
entries. -/
theorem browses_as_position {history : History} (begun : Begun history)
    (calls : List Call) :
    (Call.run answer history calls).1 =
      (Call.run Position.answer (.atEnd history.entries) calls).1 ∧
    (Call.run answer history calls).2.IsAt
      (Call.run Position.answer (.atEnd history.entries) calls).2 ∧
    (Call.run answer history calls).2.ReadsInside := by
  obtain ⟨answers, ended⟩ := begun.isAt.run calls
  exact ⟨answers, ended, ended.readsInside⟩

/-- Two lines from a file, a blank line that only takes the cursor to the end,
and a new line. -/
theorem browses_as_position_opened :
    Begun (opened "h" "ls\npwd\n") ∧
    (Call.run answer (opened "h" "ls\npwd\n")
      [.previous, .previous, .previous, .next,
        .append (machineWith none) "  ", .previous,
        .append (machineWith none) "jobs\n-l", .previous, .next, .next]).1 =
      [some "pwd", some "ls", some "ls", some "pwd", none, some "pwd", none,
        some "jobs -l", some "", some ""] := by
  have there : (machineWith (some "ls\npwd\n")).lookup "h" =
      .ok (.node ["h"] (.file false 0)) := rfl
  have holds : (machineWith (some "ls\npwd\n")).Holds "h" "ls\npwd\n" :=
    .file there rfl
  have begun : Begun (opened "h" "ls\npwd\n") := .loaded (load_of_holds holds)
  refine ⟨begun, ?_⟩
  rw [(browses_as_position begun _).1]
  decide

end JobShell.History
