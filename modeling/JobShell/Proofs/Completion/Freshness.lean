import JobShell.Completion.Cache
import JobShell.Proofs.Files.Places

/-!
# Words that are kept for a while

A completion keeps the words that it has loaded, under the directory that they
are from where they are from one.  Over a run of calls, with changes of the
working directory in between, its answers are those of a new completion as long
as what was loaded before would be loaded again.
-/

namespace JobShell

namespace WordSource

/-- Nothing is loaded yet, or words that go by this law with the time and the
directory that they are from. -/
def LoadedBy (law : Nat → Option String → List String → Prop)
    (source : WordSource) : Prop :=
  source.loadedAt = none ∨
    ∃ time words,
      source.loadedAt = some time ∧ law time source.directory words ∧
      source.index = PrefixIndex.ofWords words

variable {law weaker : Nat → Option String → List String →
  Prop} {source : WordSource}

theorem LoadedBy.mono (loaded : source.LoadedBy law)
    (weaken : ∀ time directory words, law time directory words →
      weaker time directory words) :
    source.LoadedBy weaker := by
  rcases loaded with nothing | ⟨time, words, loadedAt, holds, index⟩
  · exact .inl nothing
  · exact .inr ⟨time, words, loadedAt, weaken _ _ _ holds, index⟩

theorem loadedBy_refreshed (loaded : source.LoadedBy law) (lifetime now : Nat)
    {directory : Option String} {words : List String}
    (holds : law now directory words) :
    (source.refreshed lifetime now directory words).LoadedBy law := by
  unfold refreshed
  split
  · exact .inr ⟨now, words, rfl, holds, rfl⟩
  · exact loaded

theorem index_refreshed_unloaded (lifetime now : Nat)
    (directory : Option String) (words : List String) :
    (unloaded.refreshed lifetime now directory words).index =
      PrefixIndex.ofWords words :=
  rfl

/-- Where the law leaves no choice of words that are still good, it does not
matter whether they are loaded anew. -/
theorem index_refreshed (loaded : source.LoadedBy law) {lifetime now : Nat}
    {directory : Option String} {words : List String}
    (determined : ∀ time key others, now - time < lifetime →
      law time key others →
      sameDirectory key directory = true → others = words) :
    (source.refreshed lifetime now directory words).index =
      PrefixIndex.ofWords words := by
  unfold refreshed
  split
  · rfl
  · next fresh =>
      rcases loaded with nothing | ⟨time, others, loadedAt, holds, index⟩
      · exact absurd (by rw [isStale, nothing]) fresh
      · simp only [isStale, loadedAt, Bool.or_eq_true, decide_eq_true_eq,
          Bool.not_eq_true', not_or, Bool.not_eq_false] at fresh
        rw [index, determined time _ others (by omega) holds fresh.2]

end WordSource

namespace Completion

/-- A word with the kinds of candidates that are wanted for it, or a line with a
position. -/
inductive Query where
  | word (typed : String) (categories : Categories)
  | line (text : String) (position : Nat)

/-- Where the word begins, the word, and what may take its place. -/
def Query.wanted? : Query → Option (Nat × String × Categories)
  | word typed categories => some (0, typed, categories)
  | line text position =>
    (CursorContext.at? text.toList position).map fun context =>
    (context.start, String.ofList context.typed, context.categories)

def answer (completion : Completion) (world : World) (now : Nat) :
    Query → Option (Nat × List String) × Completion
  | .word typed categories =>
    (some (0, (completion.complete world now typed categories).1),
      (completion.complete world now typed categories).2)
  | .line text position =>
    match completion.completeLine? world now text position with
    | some (found, after) => (some found, after)
    | none => (none, completion)

theorem answer_eq (completion : Completion) (world : World) (now : Nat)
    (query : Query) :
    completion.answer world now query =
      match query.wanted? with
      | none => (none, completion)
      | some (start, typed, categories) =>
        (some (start, (completion.complete world now typed categories).1),
          (completion.complete world now typed categories).2) := by
  cases query with
  | word typed categories => rfl
  | line text position =>
      simp only [answer, completeLine?, Query.wanted?]
      cases CursorContext.at? text.toList position <;> rfl

theorem fst_when_congr (complete : Completion → List String × Completion)
    {wanted : Bool} {completion other : Completion}
    (same : wanted = true → (complete completion).1 = (complete other).1) :
    (when wanted completion complete).1 = (when wanted other complete).1 := by
  cases wanted with
  | false => rfl
  | true => exact same rfl

section Complete

variable (completion : Completion) (world : World) (now : Nat) (typed : String)

/-- Each kind of candidates comes from its own source, and only what is wanted
is loaded. -/
theorem complete_eq (categories : Categories) :
    completion.complete world now typed categories =
      (distinct
        ((when categories.programs completion
          (·.completePrograms world now typed)).1 ++
        (when categories.hereNames completion
          (·.completeHereNames world now typed)).1 ++
        (when categories.files completion
          (·.completeFiles world now typed)).1 ++
        (when categories.variableNames completion
          (·.completeVariables world now typed)).1),
      { completion with
        programs :=
          (when categories.programs completion
            (·.completePrograms world now typed)).2.programs
        hereNames :=
          (when categories.hereNames completion
            (·.completeHereNames world now typed)).2.hereNames
        files :=
          (when categories.files completion
            (·.completeFiles world now typed)).2.files
        variableNames :=
          (when categories.variableNames completion
            (·.completeVariables world now typed)).2.variableNames }) := by
  obtain ⟨files, programs, variableNames, hereNames⟩ := categories
  cases directory : world.currentDirectory with
  | error error =>
      cases files <;> cases programs <;> cases variableNames <;>
        cases hereNames <;>
        simp only [complete, when, completeHereNames, directory] <;> rfl
  | ok here =>
      cases files <;> cases programs <;> cases variableNames <;>
        cases hereNames <;>
        simp only [complete, when, completeHereNames, directory] <;> rfl

end Complete

def Query.AsksPrograms (query : Query) : Prop :=
  ∃ start typed categories, query.wanted? = some (start, typed, categories) ∧
    categories.programs = true

/-- The directory that a word is looked for in. -/
def directoryOf (world : World) (typed : String) : String :=
  world.expandTilde (String.ofList (splitTyped typed.toList).1)

/-- The call asks for files in a directory. -/
def Query.AsksFiles (query : Query) (world : World)
    (directory : String) : Prop :=
  ∃ start typed categories, query.wanted? = some (start, typed, categories) ∧
    categories.files = true ∧ directory = directoryOf world typed

/-- An earlier call, with what was seen of the machine and the time. -/
structure Asked where
  world : World
  time : Nat
  query : Query

abbrev Log := List Asked

/-- What was loaded for the call may still be good. -/
def Asked.IsRecent (asked : Asked) (lifetime now : Nat) : Prop :=
  now - asked.time < lifetime

/-- Where programs were asked for of late, the search path led to the programs
that it leads to now. -/
def ProgramsStay (log : Log) (lifetime : Nat) (world : World)
    (now : Nat) : Prop :=
  ∀ asked ∈ log, asked.IsRecent lifetime now → asked.query.AsksPrograms →
    asked.world.programNames = world.programNames

/-- Where files of this directory were asked for of late, it had the names in it
that it has now. -/
def DirectoryStays (log : Log) (lifetime : Nat) (world : World) (now : Nat)
    (directory : String) : Prop :=
  ∀ asked ∈ log, asked.IsRecent lifetime now → ∀ earlier,
    asked.query.AsksFiles asked.world earlier →
      WordSource.sameDirectory (some earlier) (some directory) = true →
        asked.world.directoryNames earlier = world.directoryNames directory

def programsLaw (log : Log) (time : Nat) (key : Option String)
    (words : List String) : Prop :=
  key = none ∧ ∃ asked ∈ log, asked.time = time ∧ asked.query.AsksPrograms ∧
    words = builtinNames ++ asked.world.programNames

/-- Names of the working directory are from a place, and this place has them at
all times. -/
def hereNamesLaw (world : World) (_time : Nat) (key : Option String)
    (words : List String) :
    Prop :=
  ∃ location,
    (∀ name ∈ location, IsFileName name) ∧ key = some (World.pathOf location) ∧
    words = world.directoryNames (World.pathOf location)

def filesLaw (log : Log) (time : Nat) (key : Option String)
    (words : List String) : Prop :=
  ∃ asked ∈ log, asked.time = time ∧ ∃ directory,
    asked.query.AsksFiles asked.world directory ∧
    key = some directory ∧ words = asked.world.directoryNames directory

def variableNamesLaw (world : World) (_time : Nat) (key : Option String)
    (words : List String) :
    Prop :=
  key = none ∧ words = (world.environment.map Prod.fst).mergeSort (· ≤ ·)

theorem programsLaw_append (log more : Log) (time : Nat) (key : Option String)
    (words : List String) (law : programsLaw log time key words) :
    programsLaw (log ++ more) time key words := by
  obtain ⟨none, asked, member, asks⟩ := law
  exact ⟨none, asked, List.mem_append_left _ member, asks⟩

theorem filesLaw_append (log more : Log) (time : Nat) (key : Option String)
    (words : List String) (law : filesLaw log time key words) :
    filesLaw (log ++ more) time key words := by
  obtain ⟨asked, member, asks⟩ := law
  exact ⟨asked, List.mem_append_left _ member, asks⟩

/-- What holds of a completion after the calls of a log. -/
structure Kept (lifetime : Nat) (log : Log) (world : World)
    (completion : Completion) : Prop where
  proper : world.place.Proper
  sameMachine : ∀ asked ∈ log, World.SameMachine asked.world world
  lifetime : completion.lifetime = lifetime
  programs : completion.programs.LoadedBy (programsLaw log)
  hereNames : completion.hereNames.LoadedBy (hereNamesLaw world)
  files : completion.files.LoadedBy (filesLaw log)
  variableNames : completion.variableNames.LoadedBy (variableNamesLaw world)

theorem kept_withLifetime {world : World} (proper : world.place.Proper)
    (lifetime : Nat) :
    Kept lifetime [] world (withLifetime lifetime) :=
  ⟨proper, nofun, rfl, .inl rfl, .inl rfl, .inl rfl, .inl rfl⟩

section Kept

variable {lifetime : Nat} {log : Log} {world next : World}
  {completion : Completion}

/-- Going elsewhere loads nothing, and what was loaded from a place is still
from there. -/
theorem Kept.enter (kept : Kept lifetime log world completion) {path : String}
    (entered : world.enter path = .ok next) :
    Kept lifetime log next completion := by
  obtain ⟨proper, same⟩ := World.enter_ok entered kept.proper
  refine ⟨proper,
    fun asked member => (kept.sameMachine asked member).trans same,
      kept.lifetime, kept.programs, ?_, kept.files, ?_⟩
  · apply kept.hereNames.mono
    rintro time key words ⟨location, names, rfl, rfl⟩
    have fixed : World.IsFixed (World.pathOf location) :=
      .inl (World.isAbsolute_pathOf location)
    exact ⟨location, names, rfl,
      (World.directoryNames_of_isFixed same fixed).symm⟩
  · apply kept.variableNames.mono
    rintro time key words ⟨rfl, rfl⟩
    exact ⟨rfl, by rw [same.environment]⟩

/-- A call loads the words of the moment, and is in the log from then on. -/
theorem Kept.answer (kept : Kept lifetime log world completion) (now : Nat)
    (query : Query) :
    Kept lifetime (log ++ [⟨world, now, query⟩]) world
      (completion.answer world now query).2 := by
  have sameMachine : ∀ asked ∈ log ++ [⟨world, now, query⟩],
      World.SameMachine asked.world world := by
    intro asked member
    rcases List.mem_append.mp member with before | here
    · exact kept.sameMachine asked before
    · rw [List.mem_singleton.mp here]
      exact .refl world
  have programs :=
    kept.programs.mono (programsLaw_append log [⟨world, now, query⟩])
  have files := kept.files.mono (filesLaw_append log [⟨world, now, query⟩])
  rw [answer_eq]
  cases wanted : query.wanted? with
  | none =>
      exact ⟨kept.proper, sameMachine, kept.lifetime, programs,
        kept.hereNames, files, kept.variableNames⟩
  | some found =>
      obtain ⟨start, typed, categories⟩ := found
      dsimp only
      rw [complete_eq]
      refine ⟨kept.proper, sameMachine, kept.lifetime, ?_, ?_, ?_, ?_⟩
      · cases asks : categories.programs with
        | false => exact programs
        | true =>
            apply WordSource.loadedBy_refreshed programs
            exact ⟨rfl, ⟨world, now, query⟩, by simp, rfl,
              ⟨start, typed, categories, wanted, asks⟩, rfl⟩
      · cases categories.hereNames with
        | false => exact kept.hereNames
        | true =>
            simp only [when, if_true, completeHereNames, World.currentDirectory]
            split
            · exact kept.hereNames
            · next directory here =>
                split at here
                · cases here
                · cases here
                  apply WordSource.loadedBy_refreshed kept.hereNames
                  exact ⟨world.place.location, kept.proper, rfl, rfl⟩
      · cases asks : categories.files with
        | false => exact files
        | true =>
            apply WordSource.loadedBy_refreshed files
            exact ⟨⟨world, now, query⟩, by simp, rfl, _,
              ⟨start, typed, categories, wanted, asks, rfl⟩, rfl, rfl⟩
      · cases categories.variableNames with
        | false => exact kept.variableNames
        | true =>
            exact WordSource.loadedBy_refreshed kept.variableNames _ _
              ⟨rfl, rfl⟩

theorem Kept.completePrograms_eq (kept : Kept lifetime log world completion)
    {now : Nat} (stay : ProgramsStay log lifetime world now) (typed : String) :
    (completion.completePrograms world now typed).1 =
      ((withLifetime lifetime).completePrograms world now typed).1 := by
  have index : (completion.programs.refreshed lifetime now none
      (builtinNames ++ world.programNames)).index =
        PrefixIndex.ofWords (builtinNames ++ world.programNames) := by
    apply WordSource.index_refreshed kept.programs
    rintro time key others recent ⟨_, asked, member, rfl, earlier, rfl⟩ _
    rw [stay asked member recent earlier]
  simp only [completePrograms, withLifetime,
    WordSource.index_refreshed_unloaded, kept.lifetime, index]

/-- The names of the working directory are always those of the place where one
is. -/
theorem Kept.completeHereNames_eq (kept : Kept lifetime log world completion)
    (now : Nat) (typed : String) :
    (completion.completeHereNames world now typed).1 =
      ((withLifetime lifetime).completeHereNames world now typed).1 := by
  unfold completeHereNames World.currentDirectory
  split
  · rfl
  · next directory here =>
      split at here
      · cases here
      · cases here
        have index : (completion.hereNames.refreshed lifetime now
            (some (World.pathOf world.place.location))
            (world.directoryNames (World.pathOf world.place.location))).index =
              PrefixIndex.ofWords
                (world.directoryNames (World.pathOf world.place.location)) := by
          apply WordSource.index_refreshed kept.hereNames
          rintro time key others _ ⟨location, names, rfl, rfl⟩ same
          have components := beq_iff_eq.mp same
          rw [World.eq_of_components_pathOf_eq names kept.proper components]
        simp only [withLifetime, WordSource.index_refreshed_unloaded,
          kept.lifetime, index]

theorem Kept.completeFiles_eq (kept : Kept lifetime log world completion)
    {now : Nat} {typed : String}
    (stay : DirectoryStays log lifetime world now (directoryOf world typed)) :
    (completion.completeFiles world now typed).1 =
      ((withLifetime lifetime).completeFiles world now typed).1 := by
  have index :
      (completion.files.refreshed lifetime now (some (directoryOf world typed))
      (world.directoryNames (directoryOf world typed))).index =
        PrefixIndex.ofWords
          (world.directoryNames (directoryOf world typed)) := by
    apply WordSource.index_refreshed kept.files
    rintro time key others recent ⟨asked, member, rfl, directory, earlier,
      rfl, rfl⟩ same
    exact stay asked member recent directory earlier same
  unfold directoryOf at index
  simp only [completeFiles, withLifetime, WordSource.index_refreshed_unloaded,
    kept.lifetime, index]

theorem Kept.completeVariables_eq (kept : Kept lifetime log world completion)
    (now : Nat) (typed : String) :
    (completion.completeVariables world now typed).1 =
      ((withLifetime lifetime).completeVariables world now typed).1 := by
  have index : (completion.variableNames.refreshed lifetime now none
      ((world.environment.map Prod.fst).mergeSort (· ≤ ·))).index =
        PrefixIndex.ofWords
          ((world.environment.map Prod.fst).mergeSort (· ≤ ·)) := by
    apply WordSource.index_refreshed kept.variableNames
    rintro time key others _ ⟨_, rfl⟩ _
    rfl
  simp only [completeVariables, withLifetime,
    WordSource.index_refreshed_unloaded, kept.lifetime, index]

theorem Kept.answer_eq (kept : Kept lifetime log world completion) {now : Nat}
    {query : Query}
    (programs : query.AsksPrograms → ProgramsStay log lifetime world now)
    (files : ∀ directory, query.AsksFiles world directory →
      DirectoryStays log lifetime world now directory) :
    (completion.answer world now query).1 =
      ((withLifetime lifetime).answer world now query).1 := by
  rw [Completion.answer_eq, Completion.answer_eq]
  cases wanted : query.wanted? with
  | none => rfl
  | some found =>
      obtain ⟨start, typed, categories⟩ := found
      have fromPrograms := fst_when_congr (·.completePrograms world now typed)
        fun asks : categories.programs = true =>
        kept.completePrograms_eq
          (programs ⟨start, typed, categories, wanted, asks⟩) typed
      have fromHere := fst_when_congr (·.completeHereNames world now typed)
        fun _ : categories.hereNames = true =>
        kept.completeHereNames_eq now typed
      have fromFiles := fst_when_congr (·.completeFiles world now typed)
        fun asks : categories.files = true =>
        kept.completeFiles_eq
          (files _ ⟨start, typed, categories, wanted, asks, rfl⟩)
      have fromVariables := fst_when_congr (·.completeVariables world now typed)
        fun _ : categories.variableNames = true =>
        kept.completeVariables_eq now typed
      simp only [complete_eq, fromPrograms, fromHere, fromFiles, fromVariables]

end Kept

/-- Calls of a completion that is new at the start, with changes of the working
directory in between. -/
inductive Ran (lifetime : Nat) (start : World) :
    Log → World → Completion → Prop where
  | begin : Ran lifetime start [] start (withLifetime lifetime)
  | enter {log : Log} {world next : World} {completion : Completion}
      {path : String} (ran : Ran lifetime start log world completion)
      (entered : world.enter path = .ok next) :
      Ran lifetime start log next completion
  | ask {log : Log} {world : World} {completion : Completion}
      (ran : Ran lifetime start log world completion) (now : Nat)
      (query : Query) :
      Ran lifetime start (log ++ [⟨world, now, query⟩]) world
        (completion.answer world now query).2

theorem Ran.kept {lifetime : Nat} {start : World} {log : Log} {world : World}
    {completion : Completion} (ran : Ran lifetime start log world completion)
    (proper : start.place.Proper) : Kept lifetime log world completion := by
  induction ran with
  | begin => exact kept_withLifetime proper lifetime
  | enter _ entered induction => exact induction.enter entered
  | ask _ now query induction => exact induction.answer now query

/-- A completion answers as a new one would, if the search path has led to the
same programs and the directory of a file has had the same names whenever they
were loaded of late.  This is so for a search path of absolute directories, and
for a directory that is absolute, however it is spelled as long as the path is
short enough to be walked along. -/
theorem answer_eq_fresh {lifetime : Nat} {start : World}
    (proper : start.place.Proper) {log : Log} {world : World}
    {completion : Completion} (ran : Ran lifetime start log world completion)
    (now : Nat) (query : Query) :
    ((query.AsksPrograms → ProgramsStay log lifetime world now) →
      (∀ directory, query.AsksFiles world directory →
        DirectoryStays log lifetime world now directory) →
          (completion.answer world now query).1 =
            ((withLifetime lifetime).answer world now query).1) ∧
    ((∀ directory ∈ world.searchPath, World.IsFixed directory) →
      ProgramsStay log lifetime world now) ∧
    (∀ directory, World.IsFixed directory →
      directory.utf8ByteSize < World.pathLimit →
      (∀ asked ∈ log, ∀ earlier, asked.query.AsksFiles asked.world earlier →
        earlier.utf8ByteSize < World.pathLimit) →
          DirectoryStays log lifetime world now directory) := by
  have kept := ran.kept proper
  refine ⟨kept.answer_eq, ?_, ?_⟩
  · intro fixed asked member _ _
    exact World.programNames_of_isFixed
      (kept.sameMachine asked member).symm fixed
  · intro directory fixed short shortBefore asked member _ earlier asks same
    exact World.directoryNames_of_isFixed_of_components_eq
      (kept.sameMachine asked member) fixed
      (shortBefore asked member earlier asks) short (beq_iff_eq.mp same)

/-- Two directories, each with another one of the same name in it. -/
def rooms (here : String) : World :=
  { files :=
      { root := .directory
          [("a", .directory [("sub", .directory [("x", .null)])]),
            ("b", .directory [("sub", .directory [("y", .null)])])]
        contents := #[] }
    place := { location := [here], removed := 0 }, environment := [],
    accountHome := "/" }

theorem proper_rooms : (rooms "a").place.Proper := by
  intro name member
  rw [List.mem_singleton.mp member]
  exact ⟨by decide, by decide, by decide, by decide⟩

/-- After a call in the one and a change to the other. -/
theorem ran_rooms (lifetime : Nat) (query : Query) :
    Ran lifetime (rooms "a") [⟨rooms "a", 0, query⟩] (rooms "b")
      ((withLifetime lifetime).answer (rooms "a") 0 query).2 := by
  have entered : (rooms "a").enter "/b" = .ok (rooms "b") := rfl
  exact (Ran.begin.ask 0 query).enter entered

/-- An absolute directory, asked for from two places and spelled in two ways. -/
theorem answer_eq_fresh_of_rooms :
    (rooms "a").place.Proper ∧
    Ran 1000 (rooms "a")
      [⟨rooms "a", 0, .word "/a/sub/" .onlyFiles⟩] (rooms "b")
      ((withLifetime 1000).answer (rooms "a") 0
        (.word "/a/sub/" .onlyFiles)).2 ∧
    (((withLifetime 1000).answer (rooms "a") 0
      (.word "/a/sub/" .onlyFiles)).2.answer (rooms "b")
      10 (.word "/a/./sub/" .onlyFiles)).1 = some (0, ["/a/./sub/x"]) := by
  have ran := ran_rooms 1000 (.word "/a/sub/" .onlyFiles)
  refine ⟨proper_rooms, ran, ?_⟩
  obtain ⟨same, _, stays⟩ :=
    answer_eq_fresh proper_rooms ran 10 (.word "/a/./sub/" .onlyFiles)
  rw [same]
  · decide +kernel
  · rintro ⟨start, typed, categories, wanted, asks⟩
    cases wanted
    cases asks
  · rintro directory ⟨start, typed, categories, wanted, _, rfl⟩
    cases wanted
    apply stays
    · exact .inl (by decide)
    · decide
    · intro asked member earlier asks
      rw [List.mem_singleton.mp member] at asks
      obtain ⟨start, typed, categories, wanted, _, rfl⟩ := asks
      cases wanted
      decide

/-- A directory that is named from where one is stays the one where one was. -/
theorem not_answer_eq_fresh :
    ¬∀ (lifetime : Nat) (start : World) (log : Log) (world : World)
      (completion : Completion),
      start.place.Proper → Ran lifetime start log world completion →
        ∀ (now : Nat) (query : Query), (completion.answer world now query).1 =
          ((withLifetime lifetime).answer world now query).1 := by
  intro fresh
  have same :=
    fresh 1000 _ _ _ _ proper_rooms
      (ran_rooms 1000 (.word "sub/" .onlyFiles)) 10
    (.word "sub/" .onlyFiles)
  have kept :
      (((withLifetime 1000).answer (rooms "a") 0
        (.word "sub/" .onlyFiles)).2.answer
      (rooms "b") 10 (.word "sub/" .onlyFiles)).1 = some (0, ["sub/x"]) := by
    decide +kernel
  have new :
      ((withLifetime 1000).answer (rooms "b") 10 (.word "sub/" .onlyFiles)).1 =
      some (0, ["sub/y"]) := by decide +kernel
  have equal : some (0, ["sub/x"]) = some (0, ["sub/y"]) :=
    kept.symm.trans (same.trans new)
  revert equal
  decide

end Completion

end JobShell
