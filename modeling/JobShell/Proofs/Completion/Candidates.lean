import JobShell.Proofs.Completion.Freshness
import JobShell.Proofs.PrefixIndex.Words

/-!
# What is offered for a word

Whatever the calls before have left in the sources, and whatever has become of
the files and the variables since, a line is completed from one kind of names.
The names are those that a call has loaded from the machine as it found it, this
call where what was held is stale.  All that extend the word are offered, each
once, in the order of loading, with what was taken off the word put back in
front of them.
-/

namespace JobShell

namespace PrefixIndex

theorem startsWith_append (front start word : String) :
    startsWith (front ++ start) (front ++ word) = startsWith start word := by
  rw [startsWith, startsWith, Bool.eq_iff_iff, List.isPrefixOf_iff_prefix,
    List.isPrefixOf_iff_prefix, String.toList_append, String.toList_append,
    List.prefix_append_right_inj]

theorem map_append_filter (front start : String) (words : List String) :
    (words.filter (startsWith start)).map (front ++ ·) =
      (words.map (front ++ ·)).filter (startsWith (front ++ start)) := by
  rw [List.filter_map]
  congr 1
  exact List.filter_congr fun word _ =>
    (startsWith_append front start word).symm

end PrefixIndex

namespace Completion

theorem distinct_of_nodup {words : List String}
    (nodup : words.Nodup) : distinct words = words := by
  induction words using List.reverseRecOn with
  | nil => rfl
  | append_singleton words word induction =>
      obtain ⟨nodupFront, _, apart⟩ := List.nodup_append.mp nodup
      have kept : distinct words = words := induction nodupFront
      have new : words.contains word = false := by
        rw [List.contains_eq_mem, decide_eq_false_iff_not]
        exact fun member => apart word member word List.mem_cons_self rfl
      rw [distinct] at kept ⊢
      rw [List.foldl_append, kept, List.foldl_cons, List.foldl_nil, new]
      rfl

inductive Kind where
  | programs
  | hereNames
  | files
  | variableNames
  deriving DecidableEq, Repr

namespace Kind

def categories : Kind → Categories
  | programs => .onlyPrograms
  | hereNames => .onlyHereNames
  | files => .onlyFiles
  | variableNames => .onlyVariables

def isWanted : Kind → Categories → Bool
  | programs => Categories.programs
  | hereNames => Categories.hereNames
  | files => Categories.files
  | variableNames => Categories.variableNames

def source : Kind → Completion → WordSource
  | programs => Completion.programs
  | hereNames => Completion.hereNames
  | files => Completion.files
  | variableNames => Completion.variableNames

def complete : Kind → Completion → World → Nat → String →
    List String × Completion
  | programs => completePrograms
  | hereNames => completeHereNames
  | files => completeFiles
  | variableNames => completeVariables

/-- The part of a word that the names do not have: the directory that they are
from, as it was typed, or the sign of a variable. -/
def taken (kind : Kind) (typed : String) : String :=
  match kind with
  | programs | hereNames => ""
  | files => String.ofList (splitTyped typed.toList).1
  | variableNames => "$"

/-- The part of a word that the names go on from. -/
def sought (kind : Kind) (typed : String) : String :=
  match kind with
  | programs | hereNames => typed
  | files => String.ofList (splitTyped typed.toList).2
  | variableNames =>
    match typed.toList with
    | '$' :: name => String.ofList name
    | _ => typed

/-- The names that there are for a word, with the directory that they are from;
there are none in a working directory that has been removed. -/
def load? (kind : Kind) (world : World)
    (typed : String) : Option (Option String × List String) :=
  match kind with
  | programs => some (none, builtinNames ++ world.programNames)
  | hereNames => world.currentDirectory.toOption.map fun directory =>
    (some directory, world.directoryNames directory)
  | files =>
    some (some (directoryOf world typed),
      world.directoryNames (directoryOf world typed))
  | variableNames =>
    some (none, (world.environment.map Prod.fst).mergeSort (· ≤ ·))

/-- The source after a call for this kind. -/
def reload (kind : Kind) (completion : Completion) (world : World) (now : Nat)
    (typed : String) :
    WordSource :=
  match kind.load? world typed with
  | none => kind.source completion
  | some (key, names) =>
    (kind.source completion).refreshed completion.lifetime now key names

theorem complete_eq (kind : Kind) (completion : Completion) (world : World)
    (now : Nat) (typed : String) :
    (kind.complete completion world now typed).1 =
      (if (kind.load? world typed).isSome then
        ((kind.reload completion world now typed).index.startingWith
          (kind.sought typed)).map (kind.taken typed ++ ·)
      else []) ∧
    kind.source (kind.complete completion world now typed).2 =
      kind.reload completion world now typed := by
  cases kind with
  | programs =>
      refine ⟨?_, rfl⟩
      simp [complete, completePrograms, load?, reload, source, sought, taken]
  | hereNames =>
      cases here : world.currentDirectory with
      | error error =>
          simp [complete, completeHereNames, load?, reload, here, source,
            Except.toOption]
      | ok directory =>
          simp [complete, completeHereNames, load?, reload, here, source,
            sought, taken, Except.toOption]
  | files =>
      refine ⟨?_, rfl⟩
      simp [complete, completeFiles, load?, reload, source, sought, taken,
        directoryOf]
  | variableNames =>
      have known : (variableNames.load? world typed).isSome = true := rfl
      rw [if_pos known]
      exact ⟨rfl, rfl⟩

end Kind

section Complete

variable (kind : Kind) (completion : Completion) (world : World) (now : Nat)
  (typed : String)

/-- A source changes only where its kind is wanted. -/
theorem source_complete (categories : Categories) :
    kind.source (completion.complete world now typed categories).2 =
      if kind.isWanted categories then kind.reload completion world now typed
      else kind.source completion := by
  have single := (kind.complete_eq completion world now typed).2
  rw [Completion.complete_eq, ← single]
  cases kind with
  | programs =>
      cases wanted : categories.programs <;>
        simp [Kind.isWanted, wanted, when] <;> rfl
  | hereNames =>
      cases wanted : categories.hereNames <;>
        simp [Kind.isWanted, wanted, when] <;> rfl
  | files =>
      cases wanted : categories.files <;>
        simp [Kind.isWanted, wanted, when] <;> rfl
  | variableNames =>
      cases wanted : categories.variableNames <;>
        simp [Kind.isWanted, wanted, when] <;> rfl

/-- Where one kind is wanted, its candidates are all that there are. -/
theorem complete_categories :
    (completion.complete world now typed kind.categories).1 =
      distinct (kind.complete completion world now typed).1 := by
  rw [Completion.complete_eq]
  cases kind with
  | programs =>
      simp [Kind.categories, Categories.onlyPrograms, Categories.none, when,
        Kind.complete]
  | hereNames =>
      simp [Kind.categories, Categories.onlyHereNames, Categories.none, when,
        Kind.complete]
  | files =>
      simp [Kind.categories, Categories.onlyFiles, Categories.none, when,
        Kind.complete]
  | variableNames =>
      simp [Kind.categories, Categories.onlyVariables, Categories.none, when,
        Kind.complete]

end Complete

/-- Calls of a completion that is new at the start.  Each of them finds the
machine in a state of its own. -/
inductive Consulted : Log → Completion → Prop where
  | begin (lifetime : Nat) : Consulted [] (withLifetime lifetime)
  | ask {log : Log} {completion : Completion}
      (consulted : Consulted log completion) (world : World) (now : Nat)
      (query : Query) :
      Consulted (log ++ [⟨world, now, query⟩])
        (completion.answer world now query).2

/-- A call of the log has found these names. -/
def Kind.Loaded (kind : Kind) (log : Log) (time : Nat) (key : Option String)
    (names : List String) : Prop :=
  ∃ asked ∈ log, asked.time = time ∧ ∃ start typed categories,
    asked.query.wanted? = some (start, typed, categories) ∧
    kind.isWanted categories = true ∧
      kind.load? asked.world typed = some (key, names)

theorem Kind.Loaded.append {kind : Kind} {log : Log} (more : Log) (time : Nat)
    (key : Option String) (names : List String)
    (loaded : kind.Loaded log time key names) :
    kind.Loaded (log ++ more) time key names := by
  obtain ⟨asked, member, found⟩ := loaded
  exact ⟨asked, List.mem_append_left more member, found⟩

theorem Consulted.loadedBy {log : Log} {completion : Completion}
    (consulted : Consulted log completion) (kind : Kind) :
    (kind.source completion).LoadedBy (kind.Loaded log) := by
  induction consulted with
  | begin lifetime => cases kind <;> exact .inl rfl
  | @ask log completion _ world now query induction =>
      have before := induction.mono (Kind.Loaded.append [⟨world, now, query⟩])
      rw [Completion.answer_eq]
      cases wanted : query.wanted? with
      | none => exact before
      | some found =>
          obtain ⟨start, typed, categories⟩ := found
          dsimp only
          rw [source_complete]
          split
          · next asks =>
              unfold Kind.reload
              split
              · exact before
              · next key names loads =>
                  apply WordSource.loadedBy_refreshed before
                  exact ⟨⟨world, now, query⟩, by simp, rfl, start, typed,
                    categories, wanted, asks, loads⟩
          · exact before

/-- The names that a call offers. -/
inductive Kind.Offers (kind : Kind) (log : Log) (completion : Completion)
    (world : World) (now : Nat) (typed : String) : List String → Prop where
  /-- There are none to be had. -/
  | nothing (gone : kind.load? world typed = none) :
      Offers kind log completion world now typed []
  /-- They are loaded by this call. -/
  | loaded {key : Option String} {names : List String}
      (found : kind.load? world typed = some (key, names))
      (stale : (kind.source completion).isStale completion.lifetime now key =
        true) :
      Offers kind log completion world now typed names
  /-- An earlier call has loaded them, and they are still good. -/
  | kept {key : Option String} {fresh names : List String} {time : Nat}
      (found : kind.load? world typed = some (key, fresh))
      (good : (kind.source completion).isStale completion.lifetime now key =
        false)
      (loadedAt : (kind.source completion).loadedAt = some time)
      (loaded : kind.Loaded log time (kind.source completion).directory names) :
      Offers kind log completion world now typed names

theorem Consulted.exists_offers {log : Log} {completion : Completion}
    (consulted : Consulted log completion) (kind : Kind) (world : World)
    (now : Nat) (typed : String) :
    ∃ names, kind.Offers log completion world now typed names ∧
      (kind.complete completion world now typed).1 =
        (names.eraseDups.filter
          (PrefixIndex.startsWith (kind.sought typed))).map
          (kind.taken typed ++ ·) := by
  rw [(kind.complete_eq completion world now typed).1, Kind.reload]
  cases found : kind.load? world typed with
  | none => exact ⟨[], .nothing found, rfl⟩
  | some loads =>
      obtain ⟨key, fresh⟩ := loads
      rw [Option.isSome_some, if_pos rfl]
      dsimp only
      cases stale : (kind.source completion).isStale completion.lifetime
        now key with
      | true =>
          refine ⟨fresh, .loaded found stale, ?_⟩
          rw [WordSource.refreshed, if_pos stale]
          exact congrArg _
            ((PrefixIndex.represents_ofWords fresh).startingWith _)
      | false =>
          rw [WordSource.refreshed, if_neg (by simp [stale])]
          -- What is not stale has been loaded, and then by one of the calls.
          rcases consulted.loadedBy kind with nothing |
            ⟨time, names, loadedAt, loaded, index⟩
          · rw [WordSource.isStale, nothing] at stale
            cases stale
          · refine ⟨names, .kept found stale loadedAt loaded, ?_⟩
            rw [index, (PrefixIndex.represents_ofWords names).startingWith]

theorem taken_append_sought {kind : Kind} {typed : String}
    (fits : kind = .variableNames → typed.toList.head? = some '$') :
    kind.taken typed ++ kind.sought typed = typed := by
  cases kind with
  | programs => exact String.empty_append
  | hereNames => exact String.empty_append
  | files =>
      rw [Kind.taken, Kind.sought,
        splitTyped, ← String.ofList_append, ← List.reverse_append,
        List.takeWhile_append_dropWhile, List.reverse_reverse,
        String.ofList_toList]
  | variableNames =>
      obtain ⟨name, shape⟩ := List.head?_eq_some_iff.mp (fits rfl)
      rw [Kind.taken, Kind.sought, shape, ← String.toList_inj, shape]
      simp

/-- One kind of candidates is wanted for each word. -/
theorem exists_kind (before typed : List Char) :
    ∃ kind : Kind, CursorContext.categoriesOf before typed = kind.categories ∧
      (kind = .variableNames → typed.head? = some '$') := by
  unfold CursorContext.categoriesOf
  split
  · next named =>
      rw [CursorContext.namesVariable, Bool.and_eq_true, beq_iff_eq] at named
      exact ⟨.variableNames, rfl, fun _ => named.1⟩
  · split
    · exact ⟨.files, rfl, fun same => by cases same⟩
    · split
      · exact ⟨.programs, rfl, fun same => by cases same⟩
      · exact ⟨.hereNames, rfl, fun same => by cases same⟩

/-- Names that do not come from the search path are in order. -/
theorem Kind.sorted_of_load? {kind : Kind} {world : World} {typed : String}
    {key : Option String} {names : List String}
    (found : kind.load? world typed = some (key, names))
    (elsewhere : kind ≠ .programs) : names.Pairwise (· ≤ ·) := by
  have sorted (words : List String) :
      (words.mergeSort (· ≤ ·)).Pairwise (· ≤ ·) := by
    have transitive (first second third : String)
        (before : decide (first ≤ second) = true)
        (behind : decide (second ≤ third) = true) :
        decide (first ≤ third) = true :=
      decide_eq_true
        (String.le_trans (of_decide_eq_true before) (of_decide_eq_true behind))
    have total (first second : String) :
        (decide (first ≤ second) || decide (second ≤ first)) = true := by
      simpa using String.le_total first second
    simpa using List.pairwise_mergeSort transitive total words
  have listed (directory : String) :
      (world.directoryNames directory).Pairwise (· ≤ ·) := by
    unfold World.directoryNames
    split
    · exact .nil
    · exact sorted _
  cases kind with
  | programs => exact absurd rfl elsewhere
  | hereNames =>
      obtain ⟨directory, _, same⟩ := Option.map_eq_some_iff.mp found
      cases same
      exact listed directory
  | files =>
      cases found
      exact listed _
  | variableNames =>
      cases found
      exact sorted _

theorem Kind.Offers.exists_load? {kind : Kind} {log : Log}
    {completion : Completion} {world : World} {now : Nat} {typed : String}
    {names : List String}
    (offers : kind.Offers log completion world now typed names) :
    names = [] ∧ kind.load? world typed = none ∨
      ∃ seen word key, kind.load? seen word = some (key, names) := by
  cases offers with
  | nothing gone => exact .inl ⟨rfl, gone⟩
  | loaded found stale => exact .inr ⟨world, typed, _, found⟩
  | kept found good loadedAt loaded =>
      obtain ⟨asked, _, _, _, word, _, _, _, loads⟩ := loaded
      exact .inr ⟨asked.world, word, _, loads⟩

theorem Kind.Offers.sorted {kind : Kind} {log : Log} {completion : Completion}
    {world : World} {now : Nat} {typed : String} {names : List String}
    (offers : kind.Offers log completion world now typed names)
    (elsewhere : kind ≠ .programs) :
    names.Pairwise (· ≤ ·) := by
  rcases offers.exists_load? with ⟨rfl, _⟩ | ⟨seen, word, key, loads⟩
  · exact .nil
  · exact sorted_of_load? loads elsewhere

theorem Kind.Offers.exists_programNames {log : Log} {completion : Completion}
    {world : World} {now : Nat} {typed : String} {names : List String}
    (offers : Kind.programs.Offers log completion world now typed names) :
    ∃ seen : World, names = builtinNames ++ seen.programNames := by
  rcases offers.exists_load? with ⟨_, gone⟩ | ⟨seen, word, key, loads⟩
  · cases gone
  · cases loads
    exact ⟨seen, rfl⟩

theorem pairwise_builtinNames : builtinNames.Pairwise (· < ·) := by
  decide

theorem nodup_map_append (front : String) {names : List String}
    (nodup : names.Nodup) :
    (names.map (front ++ ·)).Nodup := by
  refine nodup.map ?_
  intro name other same
  exact String.append_right_inj front |>.mp same

/-- Whatever was asked before, a line is completed at every position where it
may be cut.  The word in front of the position is one with each candidate's
beginning, no candidate comes twice, and the candidates are the offered names of
one kind that extend the word, with what was taken off it in front, in the order
in which the names were loaded: builtins by name and then the programs along the
search path, or names in order. -/
theorem completeLine?_extends {log : Log} {completion : Completion}
    (consulted : Consulted log completion) (world : World) (now : Nat)
    {line : String} {position : Nat} {front behind : List Char}
    (cut : Text.cutAt? line.toList
      (min position (Text.byteLength line.toList)) =
      some (front, behind)) :
    ∃ (before : List Char) (typed : String) (kind : Kind)
      (names candidates : List String)
        (after : Completion),
      front = before ++ typed.toList ∧
      CursorContext.at? line.toList position =
        some ⟨Text.byteLength before, typed.toList, kind.categories⟩ ∧
      completion.completeLine? world now line position =
        some ((Text.byteLength before, candidates), after) ∧
      kind.Offers log completion world now typed names ∧
      candidates = (names.eraseDups.map (kind.taken typed ++ ·)).filter
        (PrefixIndex.startsWith typed) ∧
      (∀ candidate ∈ candidates, typed.toList <+: candidate.toList) ∧
      candidates.Nodup ∧
      (kind = .programs → builtinNames.Pairwise (· < ·) ∧
        ∃ seen : World, names = builtinNames ++ seen.programNames) ∧
      (kind ≠ .programs → names.Pairwise (· ≤ ·)) := by
  obtain ⟨kind, categories, fits⟩ :=
    exists_kind (CursorContext.beforeLastWord front)
      (CursorContext.lastWord front)
  obtain ⟨typed, shape⟩ : ∃ typed : String,
    typed.toList = CursorContext.lastWord front :=
    ⟨String.ofList (CursorContext.lastWord front), String.toList_ofList⟩
  rw [← shape] at categories fits
  obtain ⟨names, offers, found⟩ := consulted.exists_offers kind world now typed
  rw [PrefixIndex.map_append_filter, taken_append_sought fits] at found
  have nodup : ((names.eraseDups.map (kind.taken typed ++ ·)).filter
      (PrefixIndex.startsWith typed)).Nodup :=
    (nodup_map_append _
      (PrefixIndex.represents_ofWords names).distinct).filter _
  have here : CursorContext.at? line.toList position =
      some ⟨Text.byteLength (CursorContext.beforeLastWord front), typed.toList,
        kind.categories⟩ := by
    rw [CursorContext.at?, cut, Option.map_some]
    dsimp only
    rw [← shape, categories]
  refine ⟨CursorContext.beforeLastWord front, typed, kind, names, _,
    (completion.complete world now typed kind.categories).2, ?_, here, ?_,
    offers, rfl, ?_, nodup, ?_, offers.sorted⟩
  · rw [shape, CursorContext.beforeLastWord_append_lastWord]
  · rw [completeLine?, here, Option.map_some, String.ofList_toList, ← found]
    dsimp only
    rw [complete_categories, found, distinct_of_nodup nodup]
  · intro candidate member
    exact List.isPrefixOf_iff_prefix.mp (List.mem_filter.mp member).2
  · rintro rfl
    exact ⟨pairwise_builtinNames, offers.exists_programNames⟩

/-- A machine whose search path leads to a directory with these names in it. -/
def binWith (entries : List (String × Node)) : World :=
  { files := { root := .directory [("bin", .directory entries)],
               contents := #[] }
    place := { location := [], removed := 0 }, environment := [("PATH", "/bin")]
    accountHome := "/" }

def filledBin : World :=
  binWith [("echo", .program .cat), ("notes", .null), ("earth", .program .sh)]

/-- A program has the name of a builtin, and all programs have gone since they
were loaded. -/
theorem completeLine?_extends_emptiedBin :
    Consulted [⟨filledBin, 0, .word "" .onlyPrograms⟩]
      ((withLifetime 1000).answer filledBin 0 (.word "" .onlyPrograms)).2 ∧
    Text.cutAt? "ls|e".toList (min 9 (Text.byteLength "ls|e".toList)) =
      some ("ls|e".toList, []) ∧
    ∃ candidates after,
      ((withLifetime 1000).answer filledBin 0
        (.word "" .onlyPrograms)).2.completeLine?
        (binWith []) 10 "ls|e" 9 = some ((3, candidates), after) ∧
      candidates = ["echo", "exit", "earth"] ∧ candidates.Nodup ∧
      ∀ candidate ∈ candidates, "e".toList <+: candidate.toList := by
  have consulted : Consulted [⟨filledBin, 0, .word "" .onlyPrograms⟩]
      ((withLifetime 1000).answer filledBin 0 (.word "" .onlyPrograms)).2 :=
    (Consulted.begin 1000).ask filledBin 0 (.word "" .onlyPrograms)
  have cut : Text.cutAt? "ls|e".toList (min 9 (Text.byteLength "ls|e".toList)) =
      some ("ls|e".toList, []) := by decide
  have context : CursorContext.at? "ls|e".toList 9 =
      some ⟨3, "e".toList, .onlyPrograms⟩ := by
    decide
  obtain ⟨before, typed, kind, names, candidates, after, _, here, found, offers,
    listed, begins, nodup, _⟩ :=
    completeLine?_extends consulted (binWith []) 10 cut
  rw [context, Option.some.injEq, CursorContext.mk.injEq,
    String.toList_inj] at here
  obtain ⟨start, rfl, categories⟩ := here
  obtain rfl : kind = .programs := by
    cases kind with
    | programs => rfl
    | hereNames | files | variableNames => cases categories
  have names : names = builtinNames ++ filledBin.programNames := by
    cases offers with
    | nothing gone => cases gone
    | loaded found stale => cases found; cases stale
    | kept found good loadedAt loaded =>
        obtain ⟨asked, member, _, _, _, _, _, _, loads⟩ := loaded
        rw [List.mem_singleton.mp member] at loads
        cases loads
        rfl
  refine ⟨consulted, cut, candidates, after, ?_, ?_, nodup, begins⟩
  · rw [found, start]
  · rw [listed, names]
    decide +kernel

end Completion

end JobShell
