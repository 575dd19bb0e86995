import JobShell.History
import JobShell.Proofs.Files.Append
import JobShell.Proofs.Text.Lines

/-!
# A history that outlives its shell

What is read back from the file of a history after lines have been appended to
it.  The file is taken as it was found: what stands behind its last line feed is
a line when it is read, and the front of a line when it is written to.
-/

namespace JobShell.History

/-- Appends lines one after the other, here and in the file. -/
def appendAllIn : World → History → List String → History × World
  | world, history, [] => (history, world)
  | world, history, line :: rest =>
    appendAllIn (appendIn world history line).2
      (appendIn world history line).1 rest

/-- Every line that is to be written arrives in the file. -/
def WritesAll : World → History → List String → Prop
  | _, _, [] => True
  | world, history, line :: rest =>
    (∀ file text, history.record? line = some (file, text) →
      ∃ next, world.appendText file text = .ok next) ∧
    WritesAll (appendIn world history line).2
      (appendIn world history line).1 rest

/-- The entries that lines become. -/
def kept (lines : List String) : List String :=
  (lines.map oneLine).filter fun line => !Text.allBlank line

/-- What appending lines writes. -/
def recorded (lines : List String) : String :=
  String.ofList (Text.joinLines ((kept lines).map String.toList))

theorem kept_cons (line : String) (rest : List String) :
    kept (line :: rest) =
      if Text.allBlank (oneLine line) then kept rest
      else oneLine line :: kept rest := by
  cases blank : Text.allBlank (oneLine line) <;> simp [kept, blank]

theorem not_mem_oneLine (line : String) : '\n' ∉ (oneLine line).toList := by
  rw [oneLine, String.toList_ofList, List.mem_map]
  rintro ⟨c, _, feed⟩
  split at feed
  · cases feed
  · next ordinary => exact ordinary feed

theorem not_mem_of_mem_kept {lines : List String} :
    ∀ entry ∈ (kept lines).map String.toList, '\n' ∉ entry := by
  intro entry member
  obtain ⟨line, listed, rfl⟩ := List.mem_map.mp member
  obtain ⟨original, _, rfl⟩ := List.mem_map.mp (List.mem_filter.mp listed).1
  exact not_mem_oneLine original

theorem solid_of_mem_kept {lines : List String} :
    ∀ entry ∈ (kept lines).map String.toList, entry.all isBlank = false := by
  intro entry member
  obtain ⟨line, listed, rfl⟩ := List.mem_map.mp member
  simpa [Text.allBlank] using (List.mem_filter.mp listed).2

theorem linesOf_eq (text : String) :
    linesOf text = (Text.solidLines text.toList).map String.ofList := by
  rw [linesOf, Text.solidLines, List.filter_map]
  simp [Function.comp_def, Text.allBlank]

/-- The history of a file at the time when it is read. -/
def opened (path text : String) : History :=
  { entries := linesOf text, cursor := (linesOf text).length,
    file := some path }

theorem load_of_holds {world : World} {path text : String}
    (holds : world.Holds path text) :
    load world path = .ok (opened path text) := by
  unfold load
  rcases holds.readText with read | ⟨absent, rfl⟩
  · rw [read]
    rfl
  · rw [absent]
    rfl

section Step

variable {world : World} {history : History} {path text : String}

@[simp] theorem entries_append (history : History) (line : String) :
    (history.append line).entries = history.entries ++ kept [line] := by
  rw [kept_cons]
  cases blank : Text.allBlank (oneLine line) <;> simp [append, blank, kept]

@[simp] theorem file_append (history : History) (line : String) :
    (history.append line).file = history.file := by
  unfold append
  dsimp only

/-- One line: a blank one writes nothing, and any other one stands at the end of
the file. -/
theorem holds_appendIn (sound : world.Sound) (holds : world.Holds path text)
    (file : history.file = some path) {line : String}
    (writes : ∀ file text, history.record? line = some (file, text) →
      ∃ next, world.appendText file text = .ok next) :
    (appendIn world history line).2.Sound ∧
      (appendIn world history line).2.Holds path (text ++ recorded [line]) := by
  cases blank : Text.allBlank (oneLine line) with
  | true =>
      have nothing : history.record? line = none := by simp [record?, blank]
      have empty : text ++ recorded [line] = text := by
        rw [recorded, kept_cons, if_pos blank]
        simp [kept]
      simp only [appendIn, nothing, empty]
      exact ⟨sound, holds⟩
  | false =>
      have record : history.record? line =
          some (path, oneLine line ++ "\n") := by
        simp [record?, blank, file]
      have written : recorded [line] = oneLine line ++ "\n" := by
        rw [← String.toList_inj]
        simp [recorded, kept, blank]
      obtain ⟨next, appended⟩ := writes _ _ record
      simp only [appendIn, record, appended, written]
      exact World.holds_appendText sound holds appended

end Step

@[simp] theorem kept_append (lines more : List String) :
    kept (lines ++ more) = kept lines ++ kept more := by
  simp [kept]

theorem recorded_append (lines more : List String) :
    recorded (lines ++ more) = recorded lines ++ recorded more := by
  rw [← String.toList_inj]
  simp [recorded]

/-- All lines: the entries grow by what is kept of them, and the file by what is
recorded. -/
theorem holds_appendAllIn {world : World} {history : History}
    {path text : String} {lines : List String} (sound : world.Sound)
    (holds : world.Holds path text) (file : history.file = some path)
    (writes : WritesAll world history lines) :
    (appendAllIn world history lines).1.entries =
      history.entries ++ kept lines ∧
      (appendAllIn world history lines).2.Holds path
        (text ++ recorded lines) := by
  induction lines generalizing world history text with
  | nil =>
      have nothing : text ++ recorded [] = text := by simp [recorded, kept]
      rw [nothing]
      exact ⟨(List.append_nil _).symm, holds⟩
  | cons line rest induction =>
      obtain ⟨soundNext, holdsNext⟩ := holds_appendIn sound holds file writes.1
      have sameFile : (appendIn world history line).1.file = some path :=
        (file_append history line).trans file
      obtain ⟨entries, holdsLast⟩ :=
        induction soundNext holdsNext sameFile writes.2
      have split : kept (line :: rest) = kept [line] ++ kept rest :=
        kept_append [line] rest
      have splitText : recorded (line :: rest) =
          recorded [line] ++ recorded rest :=
        recorded_append [line] rest
      rw [appendAllIn, split, splitText, ← List.append_assoc, ← entries_append,
        ← String.append_assoc]
      exact ⟨entries, holdsLast⟩

theorem map_toList_inj {lines others : List (List Char)} :
    lines.map String.ofList = others.map String.ofList ↔ lines = others :=
  List.map_inj_right fun _ _ => String.ofList_injective

/-- Reading back gives what the history holds just when nothing was written, or
when the file ended with a line and no new line ends in a carriage return. -/
theorem reload_eq_iff (text : String) (lines : List String) :
    linesOf (text ++ recorded lines) = linesOf text ++ kept lines ↔
      kept lines = [] ∨ ((text = "" ∨ text.toList.getLast? = some '\n') ∧
        ∀ line ∈ kept lines, line.toList.getLast? ≠ some '\r') := by
  have entries :
      kept lines = ((kept lines).map String.toList).map String.ofList := by
    simp [Function.comp_def]
  have before : (linesOf text ++ kept lines : List String) =
      (Text.solidLines text.toList ++ (kept lines).map String.toList).map
        String.ofList := by
    rw [List.map_append, ← entries, ← linesOf_eq]
  have after : linesOf (text ++ recorded lines) =
      (Text.solidLines
        (text.toList ++ Text.joinLines ((kept lines).map String.toList))).map
        String.ofList := by
    rw [linesOf_eq, String.toList_append, recorded, String.toList_ofList]
  rw [before, after, map_toList_inj,
    Text.solidLines_append_iff not_mem_of_mem_kept solid_of_mem_kept]
  simp [List.map_eq_nil_iff]

/-- A history that has been loaded from a file, and that lines are then appended
to, can be loaded again, from the text of the file with the new lines behind
it. -/
theorem load_after_appends_iff {world : World} (sound : world.Sound)
    {path text : String} (holds : world.Holds path text) (lines : List String) :
    ∃ history, load world path = .ok history ∧ history.entries = linesOf text ∧
      (WritesAll world history lines →
        (appendAllIn world history lines).1.entries =
          history.entries ++ kept lines ∧
        ∃ reloaded,
          load (appendAllIn world history lines).2 path = .ok reloaded ∧
          reloaded.entries = linesOf (text ++ recorded lines) ∧
          (reloaded.entries = (appendAllIn world history lines).1.entries ↔
            kept lines = [] ∨ ((text = "" ∨ text.toList.getLast? = some '\n') ∧
              ∀ line ∈ kept lines, line.toList.getLast? ≠ some '\r'))) := by
  have file : (opened path text).file = some path := rfl
  have entries : (opened path text).entries = linesOf text := rfl
  refine ⟨opened path text, load_of_holds holds, entries, fun writes => ?_⟩
  obtain ⟨held, holdsLast⟩ := holds_appendAllIn sound holds file writes
  have read : (opened path (text ++ recorded lines)).entries =
      linesOf (text ++ recorded lines) := rfl
  refine ⟨held, opened path (text ++ recorded lines),
    load_of_holds holdsLast, read, ?_⟩
  rw [held, read, entries]
  exact reload_eq_iff text lines

/-- A machine with nothing in its root directory but a file `h`, if there is a
text for it. -/
def machineWith (text : Option String) : World :=
  { files :=
      { root := .directory (text.toList.map fun _ => ("h", .file false 0))
        contents := (text.toList.map String.toUTF8).toArray }
    place := .root, environment := [], accountHome := "/" }

theorem sound_machineWith (text : Option String) :
    (machineWith text).Sound := by
  have only : ∀ (location : List String) (node : Node),
      (machineWith text).files.root.get? location = some node →
        node.isDirectory = true ∨ (node = .file false 0 ∧ text.isSome) := by
    intro location node there
    cases text with
    | none =>
        cases location with
        | nil => cases there; exact .inl rfl
        | cons name rest => cases there
    | some text =>
        cases location with
        | nil => cases there; exact .inl rfl
        | cons name rest =>
            obtain ⟨next, child, below⟩ := Option.bind_eq_some_iff.mp there
            by_cases same : name = "h"
            · subst same
              cases child
              cases rest with
              | nil => exact .inr ⟨(Option.some.inj below).symm, rfl⟩
              | cons => cases below
            · have different : (name == "h") = false := by simpa using same
              have absent :
                  (machineWith (some text)).files.root.child? name = none := by
                simp [machineWith, Node.child?, Node.entries,
                  List.lookup_cons, different]
              rw [absent] at child
              cases child
  constructor
  · intro location executable number there
    rcases only _ _ there with directory | ⟨same, present⟩
    · cases directory
    · cases same
      obtain ⟨text, rfl⟩ := Option.isSome_iff_exists.mp present
      exact Nat.one_pos
  · intro location target there
    rcases only _ _ there with directory | ⟨same, _⟩
    · cases directory
    · cases same

/-- A first session writes a line, nothing for a blank one, and a line that was
two. -/
theorem load_after_appends_iff_of_machineWith_none :
    (machineWith none).Sound ∧ (machineWith none).Holds "h" "" ∧
    WritesAll (machineWith none) (opened "h" "")
      ["ls", "  ", "echo two\nlines"] ∧
    ∃ reloaded, load (appendAllIn (machineWith none) (opened "h" "")
        ["ls", "  ", "echo two\nlines"]).2 "h" = .ok reloaded ∧
      reloaded.entries = ["ls", "echo two lines"] := by
  have sound := sound_machineWith none
  have holds : (machineWith none).Holds "h" "" := .missing rfl
  have writes :
      WritesAll (machineWith none) (opened "h" "")
        ["ls", "  ", "echo two\nlines"] := by
    refine ⟨?_, ?_, ?_, trivial⟩
    · intro file text record
      cases record
      exact ⟨_, rfl⟩
    · intro file text record
      cases record
    · intro file text record
      cases record
      exact ⟨_, rfl⟩
  obtain ⟨history, loaded, _, appended⟩ :=
    load_after_appends_iff sound holds ["ls", "  ", "echo two\nlines"]
  cases (load_of_holds holds).symm.trans loaded
  obtain ⟨held, reloaded, read, _, same⟩ := appended writes
  refine ⟨sound, holds, writes, reloaded, read, ?_⟩
  rw [same.mpr, held]
  · decide
  · exact .inr ⟨.inl rfl, by decide⟩

/-- A file whose last line has been left without a line feed is not read back as
it was. -/
theorem not_reload_eq :
    ¬∀ (world : World) (path text : String) (lines : List String)
      (history reloaded : History),
      world.Sound → world.Holds path text → load world path = .ok history →
        WritesAll world history lines →
        load (appendAllIn world history lines).2 path = .ok reloaded →
          reloaded.entries = (appendAllIn world history lines).1.entries := by
  intro same
  have sound := sound_machineWith (some "ls")
  have there : (machineWith (some "ls")).lookup "h" =
      .ok (.node ["h"] (.file false 0)) := rfl
  have holds : (machineWith (some "ls")).Holds "h" "ls" := .file there rfl
  have writes :
      WritesAll (machineWith (some "ls")) (opened "h" "ls") ["pwd"] := by
    refine ⟨?_, trivial⟩
    intro file text record
    cases record
    exact ⟨_, rfl⟩
  obtain ⟨held, holdsLast⟩ := holds_appendAllIn sound holds rfl writes
  have entries :=
    same _ _ _ _ _ _ sound holds (load_of_holds holds) writes
      (load_of_holds holdsLast)
  rw [held] at entries
  have merged : linesOf ("ls" ++ recorded ["pwd"]) = ["lspwd"] := by decide
  have apart : linesOf "ls" ++ kept ["pwd"] = ["ls", "pwd"] := by decide
  have equal : ["lspwd"] = ["ls", "pwd"] :=
    merged.symm.trans (entries.trans apart)
  revert equal
  decide

end JobShell.History
