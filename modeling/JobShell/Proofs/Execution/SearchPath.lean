import JobShell.Execution.Stage
import JobShell.Proofs.Files.Joining
import JobShell.Proofs.Files.Openings
import JobShell.Proofs.System.Trace

/-!
# Programs on the search path

What is offered as a program is what the listing of a directory shows to be one,
and what a name stands for is what a walk along the path of the directory and
the name comes to.  The two agree but for links, which are followed on a walk
and not in a listing, for paths that are too long to be walked along, and for an
empty piece of the search path, which nobody can list and which stands for the
working directory once a name is put behind it.
-/

namespace JobShell

namespace Node

theorem mem_of_child? {node child : Node} {name : String}
    (found : node.child? name = some child) :
    (name, child) ∈ node.entries := by
  obtain ⟨before, after, same, _⟩ := List.lookup_eq_some_iff.mp found
  rw [same]
  exact List.mem_append_right _ List.mem_cons_self

theorem child?_of_mem {node child : Node} {name : String}
    (distinct : (node.entries.map Prod.fst).Nodup)
    (member : (name, child) ∈ node.entries) :
    node.child? name = some child := by
  obtain ⟨before, after, same⟩ := List.append_of_mem member
  refine List.lookup_eq_some_iff.mpr ⟨before, after, same,
    fun entry listed => ?_⟩
  rw [same, List.map_append, List.map_cons, List.nodup_append] at distinct
  have different :=
    distinct.2.2 _ (List.mem_map_of_mem listed) _ List.mem_cons_self
  simpa using Ne.symm different

/-- A directory of the tree is the tree, or it is in the tree below one of the
entries. -/
theorem get?_directory_cases {root : Node} {location : List String}
    {entries : List (String × Node)}
    (there : root.get? location = some (.directory entries)) :
    root = .directory entries ∨
    ∃ name child rest, (name, child) ∈ root.entries ∧
      child.get? rest = some (.directory entries) := by
  cases location with
  | nil => exact .inl (Option.some.inj there)
  | cons name rest =>
      obtain ⟨child, found, below⟩ := Option.bind_eq_some_iff.mp there
      exact .inr ⟨name, child, rest, mem_of_child? found, below⟩

end Node

namespace World

/-- A name that the system gives to a file. -/
structure IsEntryName (name : String) : Prop extends IsFileName name where
  noNul : '\x00' ∉ name.toList
  short : name.utf8ByteSize ≤ nameLimit

/-- What holds of the file trees of machines: a directory has no two entries of
one name, and who is in a directory is in one of the tree or in a removed
one. -/
structure Tidy (world : World) : Prop where
  distinct : ∀ location entries,
    world.files.root.get? location = some (.directory entries) →
    (entries.map Prod.fst).Nodup
  named : ∀ location entries,
    world.files.root.get? location = some (.directory entries) →
    ∀ entry ∈ entries, IsEntryName entry.1
  rests : world.place.Rests world.files.root

/-- The listing of the directory shows a program of this name. -/
def Offers (world : World) (directory name : String) : Prop :=
  ∃ entries node, world.list directory = .ok entries ∧ (name, node) ∈ entries ∧
    node.isExecutableFile = true

/-- The listing of the directory shows a link of this name, and it leads to a
program. -/
def LinksToProgram (world : World) (directory name : String) : Prop :=
  ∃ entries target,
    world.list directory = .ok entries ∧ (name, .link target) ∈ entries ∧
    world.isProgram (Path.join directory name) = true

section Listing

variable {world : World} {directory name path : String}
  {entries : List (String × Node)} {found : Found}

theorem Tidy.startOf (tidy : world.Tidy) (path : String) :
    (world.startOf path).Rests world.files.root := by
  unfold World.startOf
  split
  · exact .start tidy.rests.isDirectory_root
  · exact tidy.rests

/-- The slash at the end of a directory's path is no step of its own. -/
theorem walks_names_of_lookup (looked : world.lookup directory = .ok found)
    (listable : found.IsDirectory) :
    Walks world.files.root .target
      ((Path.names directory.toList).length + linkLimit * pathLimit + 1)
      linkLimit (world.startOf directory)
      ((Path.names directory.toList).map .name) found := by
  obtain ⟨_, walks⟩ := resolve_eq_ok_iff.mp (resolve_of_lookup looked)
  unfold fuelFor Path.steps at walks
  split at walks
  · rw [List.length_append, List.length_map, List.length_singleton,
      Nat.add_right_comm _ 1, walks_insert_iff (.inl rfl) listable,
      List.append_nil] at walks
    exact walks
  · rw [List.append_nil, List.length_map] at walks
    exact walks

theorem exists_lookup_of_list (listed : world.list directory = .ok entries) :
    ∃ found, world.lookup directory = .ok found ∧ found.IsDirectory ∧
      ((∃ place, found = .orphan place ∧ entries = []) ∨
        ∃ location, found = .node location (.directory entries)) := by
  unfold World.list at listed
  cases looked : world.lookup directory with
  | error error =>
      rw [looked] at listed
      cases listed
  | ok found =>
      rw [looked] at listed
      cases found with
      | vacant location => exact (lookup_isThere looked).elim
      | orphan place =>
          cases listed
          exact ⟨_, rfl, trivial, .inl ⟨place, rfl, rfl⟩⟩
      | node location node =>
          cases node with
          | directory others =>
              cases listed
              exact ⟨_, rfl, rfl, .inr ⟨location, rfl⟩⟩
          | file executable number => cases listed
          | link target => cases listed
          | program program => cases listed
          | null => cases listed

theorem nonempty_of_list (listed : world.list directory = .ok entries) :
    directory ≠ "" := by
  obtain ⟨found, looked, _⟩ := exists_lookup_of_list listed
  simpa using (passable_of_resolve (resolve_of_lookup looked)).nonempty

/-- A name in a directory that can be listed is one step from where the
directory is. -/
theorem exists_walk_join (tidy : world.Tidy)
    (listed : world.list directory = .ok entries) :
    ∃ place less left, place.Rests world.files.root ∧
      (place.isRemoved = true ∧ entries = [] ∨ place.isRemoved = false ∧
        world.files.root.get? place.location = some (.directory entries)) ∧
      ∀ name, '/' ∉ name.toList →
        walk world.files.root .target
          (fuelFor (Path.join directory name)) linkLimit
            (world.startOf (Path.join directory name))
            (Path.steps (Path.join directory name).toList) =
          walk world.files.root .target (less + 1 + 1) left place
            [Path.lastStep name] := by
  obtain ⟨found, looked, listable, shape⟩ := exists_lookup_of_list listed
  have nonempty := nonempty_of_list listed
  obtain ⟨place, less, left, arrived, rests, same⟩ :=
    (walks_names_of_lookup looked listable).leads listable
      (tidy.startOf directory)
  refine ⟨place, less, left, rests, ?_, fun name noSlash => ?_⟩
  · rcases arrive_cases arrived with ⟨removed, rfl⟩ |
      ⟨node, present, there, rfl⟩
    · obtain ⟨_, _, nothing⟩ | ⟨_, impossible⟩ := shape
      · exact .inl ⟨removed, nothing⟩
      · cases impossible
    · obtain ⟨_, impossible, _⟩ | ⟨_, same⟩ := shape
      · cases impossible
      · cases same
        exact .inr ⟨present, there⟩
  · have fuel : fuelFor (Path.join directory name) =
        (Path.names directory.toList).length + linkLimit *
          pathLimit + 1 + 1 := by
      rw [fuelFor, Path.steps_join nonempty noSlash, List.length_append,
        List.length_map, List.length_singleton]
      omega
    rw [fuel, startOf_join world nonempty noSlash,
      Path.steps_join nonempty noSlash, same]

theorem isProgram_iff :
    world.isProgram path = true ↔
      Passable path ∧ ∃ location node, node.isExecutableFile = true ∧
        Walks world.files.root .target (fuelFor path) linkLimit
          (world.startOf path)
          (Path.steps path.toList) (.node location node) := by
  constructor
  · intro program
    unfold isProgram at program
    split at program
    · next location node looked =>
        obtain ⟨passable, walks⟩ :=
          resolve_eq_ok_iff.mp (resolve_of_lookup looked)
        exact ⟨passable, location, node, program, walks⟩
    · cases program
  · rintro ⟨passable, location, node, executable, walks⟩
    have looked : world.lookup path = .ok (.node location node) := by
      rw [World.lookup, resolve_eq_ok_iff.mpr ⟨passable, walks⟩]
      rfl
    simp only [isProgram, looked, executable]

/-- A program behind a directory is an entry of the directory, or an entry links
to it. -/
theorem entry_of_isProgram_join (tidy : world.Tidy)
    (listed : world.list directory = .ok entries) (noSlash : '/' ∉ name.toList)
    (program : world.isProgram (Path.join directory name) = true) :
    world.Offers directory name ∨ world.LinksToProgram directory name := by
  obtain ⟨place, less, left, rests, shape, same⟩ := exists_walk_join tidy listed
  obtain ⟨_, location, node, executable, walks⟩ := isProgram_iff.mp program
  have last :=
    walks_of_walk ((same name noSlash).symm.trans (walk_of_walks walks))
  have noDirectory : node.isDirectory = false := by
    cases node with
    | directory => cases executable
    | _ => rfl
  obtain ⟨next, present, there, reached⟩ :=
    last.lastStep_cases rests noDirectory
  rcases shape with ⟨removed, _⟩ | ⟨_, above⟩
  · cases removed.symm.trans present
  · have member : (name, next) ∈ entries := by
      rw [Place.below, Node.get?_append, above, Option.bind_some] at there
      obtain ⟨child, found, same⟩ := Option.bind_eq_some_iff.mp there
      cases same
      exact Node.mem_of_child? found
    rcases reached with rfl | ⟨target, rfl⟩
    · exact .inl ⟨entries, next, listed, member, executable⟩
    · exact .inr ⟨entries, target, listed, member, program⟩

/-- An executable entry of a directory is a program behind it, unless the path
is too long. -/
theorem isProgram_join_of_offers (tidy : world.Tidy)
    (offers : world.Offers directory name)
    (short : (Path.join directory name).utf8ByteSize < pathLimit) :
    world.isProgram (Path.join directory name) = true := by
  obtain ⟨entries, node, listed, member, executable⟩ := offers
  obtain ⟨found, looked, _⟩ := exists_lookup_of_list listed
  obtain ⟨place, less, left, _, ⟨_, nothing⟩ | ⟨present, above⟩, same⟩ :=
    exists_walk_join tidy listed
  · rw [nothing] at member
    cases member
  · have proper := tidy.named _ _ above _ member
    have passable : Passable (Path.join directory name) :=
      (passable_join_iff (passable_of_resolve (resolve_of_lookup looked))
        proper.noSlash).mpr ⟨proper.noNul, short⟩
    have there : world.files.root.get? (place.below name).location =
        some node := by
      rw [Place.below, Node.get?_append, above, Option.bind_some, Node.get?,
        Node.child?_of_mem (tidy.distinct _ _ above) member]
      rfl
    have looks : Looks world.files.root .target place name [] :=
      { directory := by simp [isDirectoryAt, above, Node.isDirectory]
        notHere := proper.notHere
        notAbove := proper.notAbove
        noSlash := fun asked => by cases asked
        present := present
        short := proper.short }
    have noLink : ∀ target, node ≠ .link target := by
      rintro target rfl
      cases executable
    have arrived : World.arrive world.files.root (place.below name) =
        .ok (.node (place.below name).location node) := by
      have presentBelow : (place.below name).isRemoved = false := present
      rw [World.arrive, presentBelow, there]
      rfl
    have walked :
        walk world.files.root .target (less + 1 + 1) left place [.name name] =
        .ok (.node (place.below name).location node) :=
      walk_of_walks
        (.enter looks there (followed_target _) noLink (.arrive arrived))
    have step := same name proper.noSlash
    rw [Path.lastStep, if_neg proper.nonempty, walked] at step
    exact isProgram_iff.mpr ⟨passable, _, node, executable, walks_of_walk step⟩

theorem mem_programNames_iff :
    name ∈ world.programNames ↔
      ∃ directory ∈ world.searchPath, world.Offers directory name := by
  unfold programNames
  rw [List.mem_flatMap]
  refine exists_congr fun directory => and_congr_right fun _ => ?_
  unfold Offers
  cases listed : world.list directory with
  | error error => simp
  | ok entries =>
      simp only [List.mem_map, List.mem_filter, Except.ok.injEq]
      constructor
      · rintro ⟨⟨_, node⟩, ⟨member, executable⟩, rfl⟩
        exact ⟨entries, node, rfl, member, executable⟩
      · rintro ⟨_, node, rfl, member, executable⟩
        exact ⟨(name, node), ⟨member, executable⟩, rfl⟩

theorem findProgram_isSome_iff (noSlash : '/' ∉ name.toList) :
    (world.findProgram name).isSome = true ↔
      ∃ directory ∈ world.searchPath,
        world.isProgram (Path.join directory name) = true := by
  have plain : name.toList.contains '/' = false := by simpa using noSlash
  simp only [findProgram, plain, Bool.false_eq_true, if_false,
    List.find?_isSome, List.mem_map, exists_exists_and_eq_and]

/-- A command whose name has no slash is not found when the search path has no
program for it, and only then. -/
theorem prepare_lacks_iff {command : Command} {before after : Session}
    {outcome : Except Failure Launch} (noSlash : '/' ∉ command.program.toList)
    (goes : (Shell.prepare command).Goes before
      [⟨.observe, world⟩] outcome after) :
    outcome = .error (.launch command.program .notFound) ↔
      ¬(world.findProgram command.program).isSome = true := by
  have plain : command.program.toList.contains '/' = false := by
    simpa using noSlash
  obtain ⟨_, _, same, goesOn⟩ := Shell.goes_ask_bind.mp goes
  cases same
  simp only [plain, Bool.false_eq_true, if_false] at goesOn
  cases found : world.findProgram command.program with
  | none =>
      rw [found] at goesOn
      obtain ⟨_, rfl, _⟩ := Shell.goes_throw.mp goesOn
      simp
  | some path =>
      rw [found] at goesOn
      dsimp only at goesOn
      split at goesOn
      · obtain ⟨_, rfl, _⟩ := Shell.goes_throw.mp goesOn
        simp
      · obtain ⟨_, rfl, _⟩ := Shell.goes_pure.mp goesOn
        simp

/-- What is offered are the executable files of the directories on the search
path.  What can be launched are those of them whose paths are not too long, and
besides them what links of these directories lead to, and, when the search path
has an empty piece, the programs of the working directory.  Where there are no
such links and no such piece, the two are the same.  A command is refused as not
found exactly where there is nothing to be launched. -/
theorem offered_and_found (tidy : world.Tidy) (noSlash : '/' ∉ name.toList)
    (readable : ∀ directory ∈ world.searchPath,
      directory = "" ∨ ∃ entries, world.list directory = .ok entries) :
    (name ∈ world.programNames ↔
      ∃ directory ∈ world.searchPath, world.Offers directory name) ∧
    ((world.findProgram name).isSome = true ↔ ∃ directory ∈ world.searchPath,
      (world.Offers directory name ∧
        (Path.join directory name).utf8ByteSize < pathLimit) ∨
      world.LinksToProgram directory name ∨
      (directory = "" ∧ world.isProgram name = true)) ∧
    ((∀ directory ∈ world.searchPath,
      directory ≠ "" ∧ ¬world.LinksToProgram directory name ∧
        (Path.join directory name).utf8ByteSize < pathLimit) →
      (name ∈ world.programNames ↔ (world.findProgram name).isSome = true)) ∧
    ∀ (command : Command) (before after : Session)
      (outcome : Except Failure Launch),
      command.program = name →
      (Shell.prepare command).Goes before [⟨.observe, world⟩] outcome after →
      (outcome = .error (.launch name .notFound) ↔
        ¬(world.findProgram name).isSome = true) := by
  have found : (world.findProgram name).isSome = true ↔
      ∃ directory ∈ world.searchPath,
      (world.Offers directory name ∧
        (Path.join directory name).utf8ByteSize < pathLimit) ∨
      world.LinksToProgram directory name ∨
      (directory = "" ∧ world.isProgram name = true) := by
    rw [findProgram_isSome_iff noSlash]
    refine exists_congr fun directory => and_congr_right fun onPath => ?_
    constructor
    · intro program
      rcases readable directory onPath with rfl | ⟨entries, listed⟩
      · rw [Path.join_empty] at program
        exact .inr (.inr ⟨rfl, program⟩)
      · rcases entry_of_isProgram_join tidy listed noSlash program with
          offers | links
        · exact .inl ⟨offers, (isProgram_iff.mp program).1.short⟩
        · exact .inr (.inl links)
    · rintro (⟨offers, short⟩ | ⟨_, _, _, _, program⟩ | ⟨rfl, program⟩)
      · exact isProgram_join_of_offers tidy offers short
      · exact program
      · rw [Path.join_empty]
        exact program
  refine ⟨mem_programNames_iff, found, ?_, ?_⟩
  · intro plain
    rw [mem_programNames_iff, found]
    refine exists_congr fun directory => and_congr_right fun onPath => ?_
    obtain ⟨nonempty, noLink, short⟩ := plain directory onPath
    constructor
    · exact fun offers => .inl ⟨offers, short⟩
    · rintro (⟨offers, _⟩ | links | ⟨empty, _⟩)
      · exact offers
      · exact absurd links noLink
      · exact absurd empty nonempty
  · rintro command before after outcome rfl goes
    exact prepare_lacks_iff noSlash goes

end Listing

/-- A directory with a program and a link to it, and a directory with another
program. -/
def linkedTree : Node :=
  .directory
    [("bin", .directory [("alias", .link "tool"), ("tool", .file true 0)]),
      ("home", .directory [("local", .file true 0)])]

/-- Who looks for programs from the second directory. -/
def linkedBin (searchPath : String) : World :=
  { files := { root := linkedTree, contents := #[ByteArray.empty] }
    place := { location := ["home"], removed := 0 }
    environment := [("PATH", searchPath)], accountHome := "/" }

theorem entries_linkedTree {location : List String}
    {entries : List (String × Node)}
    (there : linkedTree.get? location = some (.directory entries)) :
    entries.map Prod.fst ∈ [["bin", "home"], ["alias", "tool"], ["local"]] := by
  have inRoot : ∀ entry ∈ linkedTree.entries,
      entry.2.entries.map Prod.fst ∈ [["alias", "tool"], ["local"]] ∧
        ∀ inner ∈ entry.2.entries,
          inner.2.isDirectory = false ∧ inner.2.entries.isEmpty = true := by
    decide
  rcases Node.get?_directory_cases there with top |
    ⟨name, node, rest, member, there⟩
  · cases top
    exact List.mem_cons_self
  · obtain ⟨names, leaves⟩ := inRoot _ member
    rcases Node.get?_directory_cases there with rfl |
      ⟨name, leaf, rest, member, there⟩
    · exact List.mem_cons_of_mem _ names
    · obtain ⟨noDirectory, childless⟩ := leaves _ member
      rcases Node.get?_directory_cases there with rfl | ⟨_, _, _, member, _⟩
      · cases noDirectory
      · rw [List.isEmpty_iff.mp childless] at member
        cases member

theorem tidy_linkedBin (searchPath : String) : (linkedBin searchPath).Tidy := by
  refine ⟨?_, ?_, ["home"], [], _, rfl, rfl, rfl, rfl⟩
  · intro location entries there
    have distinct : ∀ names ∈ [["bin", "home"], ["alias", "tool"], ["local"]],
        names.Nodup := by
      decide
    exact distinct _ (entries_linkedTree there)
  · intro location entries there entry member
    have proper : ∀ names ∈ [["bin", "home"], ["alias", "tool"], ["local"]],
        ∀ name ∈ names,
          (name ≠ "" ∧ '/' ∉ name.toList ∧ name ≠ "." ∧ name ≠ "..") ∧
          '\x00' ∉ name.toList ∧ name.utf8ByteSize ≤ nameLimit := by
      decide
    obtain ⟨⟨nonempty, noSlash, notHere, notAbove⟩, noNul, short⟩ :=
      proper _ (entries_linkedTree there) _ (List.mem_map_of_mem member)
    exact ⟨⟨nonempty, noSlash, notHere, notAbove⟩, noNul, short⟩

/-- The programs behind the link and in the working directory are found, but not
offered. -/
theorem offered_and_found_linkedBin :
    (linkedBin "/bin:").Tidy ∧
    (∀ directory ∈ (linkedBin "/bin:").searchPath,
      directory = "" ∨
      ∃ entries, (linkedBin "/bin:").list directory = .ok entries) ∧
    ((linkedBin "/bin:").findProgram "tool").isSome = true ∧
    ((linkedBin "/bin:").findProgram "alias").isSome = true ∧
    ((linkedBin "/bin:").findProgram "local").isSome = true ∧
    (linkedBin "/bin:").programNames = ["tool"] := by
  have tidy := tidy_linkedBin "/bin:"
  have listed : (linkedBin "/bin:").list "/bin" =
    .ok [("alias", .link "tool"), ("tool", .file true 0)] := rfl
  have readable : ∀ directory ∈ (linkedBin "/bin:").searchPath,
      directory = "" ∨
      ∃ entries, (linkedBin "/bin:").list directory = .ok entries := by
    intro directory onPath
    rcases List.mem_pair.mp onPath with rfl | rfl
    · exact .inr ⟨_, listed⟩
    · exact .inl rfl
  have bin : "/bin" ∈ (linkedBin "/bin:").searchPath := by decide
  have here : "" ∈ (linkedBin "/bin:").searchPath := by decide
  have found {name : String} (noSlash : '/' ∉ name.toList) :=
    (offered_and_found tidy noSlash readable).2.1
  refine ⟨tidy, readable, ?_, ?_, ?_, rfl⟩
  · have offers : (linkedBin "/bin:").Offers "/bin" "tool" :=
      ⟨_, .file true 0, listed, by simp, rfl⟩
    exact (found (by decide)).mpr ⟨"/bin", bin, .inl ⟨offers, by decide⟩⟩
  · exact (found (by decide)).mpr
      ⟨"/bin", bin, .inr (.inl ⟨_, _, listed, List.mem_cons_self, rfl⟩)⟩
  · exact (found (by decide)).mpr ⟨"", here, .inr (.inr ⟨rfl, rfl⟩)⟩

/-- What can be launched through a link is not offered, wherever all directories
can be read. -/
theorem not_offered_iff_found :
    ¬∀ (world : World) (name : String), world.Tidy →
      (∀ directory ∈ world.searchPath, ∃ entries,
        world.list directory = .ok entries) →
      '/' ∉ name.toList →
      (name ∈ world.programNames ↔ (world.findProgram name).isSome = true) := by
  intro agree
  have readable : ∀ directory ∈ (linkedBin "/bin").searchPath,
      ∃ entries, (linkedBin "/bin").list directory = .ok entries := by
    intro directory onPath
    rw [List.mem_singleton.mp onPath]
    exact ⟨_, rfl⟩
  have offered :=
    (agree _ "alias" (tidy_linkedBin "/bin") readable (by decide)).mpr rfl
  revert offered
  decide

end World

end JobShell
