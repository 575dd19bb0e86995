import JobShell.Proofs.Files.Append

/-!
# Files opened one after the other

Opening a file for output may make or empty it, and leaves everything else that
can be read where it is.  So the order in which two files are opened matters
only when one of them cannot be.
-/

namespace JobShell

namespace Redirection

/-- What is said when the file cannot be opened. -/
def refusal (redirection : Redirection) (error : FileError) : Failure :=
  .runtime redirection.file (.unusable error)

end Redirection

/-- There is something where the path leads. -/
def Found.IsThere : Found → Prop
  | .vacant _ => False
  | _ => True

namespace World

section Put

variable {root : Node} {fuel links : Nat} {here : Place} {steps : List PathStep}
  {found : Found} {above : List String} {name : String} {parent : Node}
  (directory : root.get? above = some parent)
  (isDirectory : parent.isDirectory = true)
  (absent : root.get? (above ++ [name]) = none)

include directory isDirectory absent

theorem exists_walks_put (node : Node) (isThere : found.IsThere)
    (walks : Walks root .target fuel links here steps found) :
    ∃ other : Found, other.IsThere ∧
      Walks (root.put (above ++ [name]) node) .target fuel links here
        steps other := by
  induction walks with
  | @arrive _ _ here _ arrived =>
      rcases arrive_cases arrived with ⟨removed, rfl⟩ |
        ⟨old, present, there, rfl⟩
      · refine ⟨.orphan here, trivial, .arrive ?_⟩
        simp only [World.arrive, removed, if_true]
      · obtain ⟨new, foundNew, _⟩ :=
          Node.get?_put_of_get? node directory isDirectory absent there
        refine ⟨.node here.location new, trivial, .arrive ?_⟩
        simp only [World.arrive, present, foundNew]
        rfl
  | stay inDirectory idle _ induction =>
      obtain ⟨other, there, goOn⟩ := induction isThere
      refine ⟨other, there, .stay ?_ idle goOn⟩
      exact isDirectoryAt_put directory isDirectory absent inDirectory
  | up inDirectory _ induction =>
      obtain ⟨other, there, goOn⟩ := induction isThere
      exact ⟨other, there,
        .up (isDirectoryAt_put directory isDirectory absent inDirectory) goOn⟩
  | vacant => exact isThere.elim
  | entry _ _ unfollowed => cases (followed_target _).symm.trans unfollowed
  | link looks there followed somewhere _ induction =>
      obtain ⟨new, foundNew, kept⟩ :=
        Node.get?_put_of_get? node directory isDirectory absent there
      obtain ⟨other, isThereNow, goOn⟩ := induction isThere
      rcases kept with rfl | ⟨impossible, _⟩
      · exact ⟨other, isThereNow,
          .link (looks.put directory isDirectory absent) foundNew followed
            somewhere goOn⟩
      · cases impossible
  | enter looks there followed noLink _ induction =>
      obtain ⟨new, foundNew, kept⟩ :=
        Node.get?_put_of_get? node directory isDirectory absent there
      obtain ⟨other, isThereNow, goOn⟩ := induction isThere
      have noLinkNow : ∀ target, new ≠ .link target := by
        rintro target rfl
        rcases kept with same | ⟨_, impossible⟩
        · exact noLink target same.symm
        · cases impossible
      exact ⟨other, isThereNow,
        .enter (looks.put directory isDirectory absent) foundNew followed
          noLinkNow goOn⟩

end Put

variable {world next : World} {path other : String}

theorem lookup_isThere {found : Found}
    (looked : world.lookup path = .ok found) :
    found.IsThere := by
  cases found with
  | vacant location =>
      have resolved := resolve_of_lookup looked
      rw [World.lookup, resolved] at looked
      cases looked
  | node location node => trivial
  | orphan place => trivial

theorem lookup_of_resolve_isThere {found : Found}
    (resolved : world.resolve .target path = .ok found)
    (isThere : found.IsThere) : world.lookup path = .ok found := by
  rw [World.lookup, resolved]
  cases found with
  | vacant location => exact isThere.elim
  | node location node => rfl
  | orphan place => rfl

theorem exists_lookup_withNewFile {found : Found} {location : List String}
    (looked : world.lookup path = .ok found)
    (resolved : world.resolve .file other = .ok (.vacant location)) :
    ∃ still, (world.withNewFile location).lookup path = .ok still := by
  obtain ⟨passable, walks⟩ := resolve_eq_ok_iff.mp (resolve_of_lookup looked)
  obtain ⟨_, walksOther⟩ := resolve_eq_ok_iff.mp resolved
  obtain ⟨above, name, parent, rfl, directory, isDirectory, absent⟩ :=
    exists_parent_of_walks_vacant walksOther
  obtain ⟨still, isThere, again⟩ :=
    exists_walks_put directory isDirectory absent
      (.file false world.files.contents.size) (lookup_isThere looked) walks
  exact ⟨still,
    lookup_of_resolve_isThere (resolve_eq_ok_iff.mpr ⟨passable, again⟩) isThere⟩

/-- A file that is opened for output is made, emptied, or left as it is. -/
theorem openForWriting_cases {keep : Bool} {opened : Opened}
    (opens : world.openForWriting keep path = .ok (opened, next)) :
    next = world ∨ (∃ number, next = world.writeFile number ByteArray.empty) ∨
      ∃ location, world.resolve .file path = .ok (.vacant location) ∧
        next = world.withNewFile location := by
  unfold openForWriting at opens
  cases resolved : world.resolve .file path with
  | error error =>
      rw [resolved] at opens
      cases opens
  | ok found =>
      rw [resolved] at opens
      cases found with
      | orphan place => cases opens
      | vacant location =>
          cases opens
          exact .inr (.inr ⟨location, rfl, rfl⟩)
      | node location node =>
          cases node with
          | file executable number =>
              cases keep with
              | true =>
                  cases opens
                  exact .inl rfl
              | false =>
                  cases opens
                  exact .inr (.inl ⟨number, rfl⟩)
          | directory entries => cases opens
          | link target => cases opens
          | program program =>
              cases opens
              exact .inl rfl
          | null =>
              cases opens
              exact .inl rfl

/-- What can be read can still be read when a file has been opened for
output. -/
theorem exists_openForReading {keep : Bool} {opened before : Opened}
    (reads : world.openForReading path = .ok before)
    (writes : world.openForWriting keep other = .ok (opened, next)) :
    ∃ after, next.openForReading path = .ok after := by
  have readable : ∀ {world : World} {found : Found},
      world.lookup path = .ok found →
      ∃ after, world.openForReading path = .ok after := by
    intro world found looked
    rw [openForReading, looked]
    exact ⟨_, rfl⟩
  obtain ⟨found, looked⟩ : ∃ found, world.lookup path = .ok found := by
    cases looked : world.lookup path with
    | ok found => exact ⟨found, rfl⟩
    | error error =>
        rw [openForReading, looked] at reads
        cases reads
  rcases openForWriting_cases writes with rfl | ⟨number, rfl⟩ |
    ⟨location, resolved, rfl⟩
  · exact ⟨before, reads⟩
  · exact ⟨before, reads⟩
  · obtain ⟨still, lookedAgain⟩ := exists_lookup_withNewFile looked resolved
    exact readable lookedAgain

/-- Opens files in turn, up to the first one that cannot be opened: what is said
of that one, and the files as they are then. -/
def openAll (world : World) : List Redirection → Option Failure × World
  | [] => (none, world)
  | redirection :: rest =>
    match world.openFile redirection.operator redirection.file with
    | .ok (_, next) => next.openAll rest
    | .error error => (some (redirection.refusal error), world)

section OpenAll

variable {redirection : Redirection} {rest : List Redirection}

theorem openAll_opened {opened : Opened}
    (opens : world.openFile redirection.operator redirection.file =
      .ok (opened, next)) :
    world.openAll (redirection :: rest) = next.openAll rest := by
  rw [openAll, opens]

theorem openAll_refused {error : FileError}
    (refused : world.openFile redirection.operator redirection.file =
      .error error) :
    world.openAll (redirection :: rest) =
      (some (redirection.refusal error), world) := by
  rw [openAll, refused]

end OpenAll

section TwoFiles

variable {input output : Redirection}

theorem exists_openForWriting {opened : Opened}
    (writes : output.operator ≠ .input)
    (opens : world.openFile output.operator output.file = .ok (opened, next)) :
    ∃ keep, world.openForWriting keep output.file = .ok (opened, next) := by
  cases operator : output.operator with
  | input => exact absurd operator writes
  | output =>
      rw [operator] at opens
      exact ⟨false, opens⟩
  | append =>
      rw [operator] at opens
      exact ⟨true, opens⟩

variable (reads : input.operator = .input)

include reads

theorem openFile_input {opened : Opened} :
    world.openFile input.operator input.file = .ok (opened, next) ↔
      world.openForReading input.file = .ok opened ∧ next = world := by
  rw [reads]
  unfold openFile
  cases world.openForReading input.file with
  | ok found =>
      constructor
      · rintro ⟨rfl, rfl⟩
        exact ⟨rfl, rfl⟩
      · rintro ⟨⟨rfl⟩, rfl⟩
        rfl
  | error error =>
      constructor
      · rintro ⟨⟩
      · rintro ⟨⟨⟩, _⟩

theorem openFile_input_refused {error : FileError}
    (refused : world.openForReading input.file = .error error) :
    world.openFile input.operator input.file = .error error := by
  rw [reads, openFile, refused]
  rfl

/-- As long as the file to read from can be opened, both orders come to the
same. -/
theorem openAll_swap (writes : output.operator ≠ .input) {found : Opened}
    (readable : world.openForReading input.file = .ok found) :
    world.openAll [output, input] = world.openAll [input, output] := by
  rw [openAll_opened ((openFile_input reads).mpr ⟨readable, rfl⟩)]
  cases opens : world.openFile output.operator output.file with
  | error error => rw [openAll_refused opens, openAll_refused opens]
  | ok result =>
      obtain ⟨opened, next⟩ := result
      obtain ⟨keep, writing⟩ := exists_openForWriting writes opens
      obtain ⟨again, readableNext⟩ := exists_openForReading readable writing
      rw [openAll_opened opens,
        openAll_opened ((openFile_input reads).mpr ⟨readableNext, rfl⟩),
        openAll_opened opens]

end TwoFiles

end World

end JobShell
