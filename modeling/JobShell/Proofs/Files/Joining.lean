import JobShell.Proofs.Files.Standing

/-!
# A name behind a directory

A path that is made of the path of a directory and a name leads to the directory
first and from there one step on.  It does so with the steps and the links that
the way to the directory has left, so nothing has to be found anew.
-/

namespace JobShell

namespace Path

theorem pieces_append_slash (front rest begun : List Char) :
    names.pieces (front ++ '/' :: rest) begun =
      names.pieces front begun ++ names.pieces rest [] := by
  induction front generalizing begun with
  | nil => simp [names.pieces]
  | cons c front induction =>
      rw [List.cons_append]
      by_cases slash : c = '/'
      · simp [names.pieces, slash, induction]
      · simp [names.pieces, slash, induction]

theorem names_append_slash (front rest : List Char) :
    names (front ++ '/' :: rest) = names front ++ names rest := by
  rw [names, pieces_append_slash, List.filter_append]
  rfl

theorem names_of_noSlash {name : String} (noSlash : '/' ∉ name.toList) :
    names name.toList = if name = "" then [] else [name] := by
  have single := pieces_append noSlash [] []
  rw [List.append_nil] at single
  rw [names, single, List.append_nil, names.pieces, List.reverse_reverse,
    String.ofList_toList]
  by_cases empty : name = ""
  · rw [if_pos empty, empty]
    rfl
  · rw [if_neg empty, List.filter_cons_of_pos (by simpa using empty)]
    rfl

/-- The step that a name adds to a path; without a name there is only the
slash. -/
def lastStep (name : String) : PathStep :=
  if name = "" then .slash else .name name

section Join

variable {directory name : String}

/-- A slash parts the name from the directory, also one that stands there
already. -/
theorem exists_toList_join (nonempty : directory ≠ "")
    (noSlash : '/' ∉ name.toList) :
    ∃ front, (join directory name).toList = front ++ '/' :: name.toList ∧
      (directory.toList = front ∨ directory.toList = front ++ ['/']) := by
  have relative : isAbsolute name.toList = false := by
    cases shape : name.toList with
    | nil => rfl
    | cons c rest =>
        rw [shape, List.mem_cons, not_or] at noSlash
        simpa [isAbsolute] using Ne.symm noSlash.1
  have something : directory.isEmpty = false := by simpa using nonempty
  unfold join
  rw [relative, something]
  simp only [Bool.false_eq_true, if_false]
  split
  · next slash =>
      obtain ⟨front, shape⟩ :=
        List.getLast?_eq_some_iff.mp (by simpa using slash)
      exact ⟨front, by simp [shape], .inr shape⟩
  · exact ⟨directory.toList, by simp, .inl rfl⟩

@[simp] theorem join_empty (name : String) : join "" name = name := by
  unfold join
  split
  · rfl
  · rfl

theorem isAbsolute_join (nonempty : directory ≠ "")
    (noSlash : '/' ∉ name.toList) :
    isAbsolute (join directory name).toList = isAbsolute directory.toList := by
  obtain ⟨front, shape, same | same⟩ := exists_toList_join nonempty noSlash
  · have something : front ≠ [] := by
      rintro rfl
      exact nonempty (String.toList_eq_nil_iff.mp same)
    rw [isAbsolute, isAbsolute, shape, same,
      List.head?_append_of_ne_nil _ something]
  · rw [isAbsolute, isAbsolute, shape, same]
    cases front <;> rfl

theorem steps_join (nonempty : directory ≠ "") (noSlash : '/' ∉ name.toList) :
    steps (join directory name).toList =
      (names directory.toList).map .name ++ [lastStep name] := by
  obtain ⟨front, shape, same⟩ := exists_toList_join nonempty noSlash
  have namesFront : names front = names directory.toList := by
    rcases same with same | same
    · rw [same]
    · rw [same, names_append_slash, show names [] = [] from rfl,
        List.append_nil]
  rw [steps, shape, names_append_slash, namesFront,
    names_of_noSlash noSlash, lastStep,
    List.getLast?_append_of_ne_nil _ (List.cons_ne_nil _ _)]
  by_cases empty : name = ""
  · simp [empty]
  · have last : ('/' :: name.toList).getLast? ≠ some '/' := by
      intro slash
      cases ending : name.toList with
      | nil => exact empty (String.toList_eq_nil_iff.mp ending)
      | cons c rest =>
          rw [ending, List.getLast?_cons_cons, ← ending] at slash
          exact noSlash (List.mem_of_getLast? slash)
    simp [empty, last]

end Join

end Path

/-- A directory is there, or it was below one that is there before it was
removed. -/
def Place.Rests (root : Node) (place : Place) : Prop :=
  ∃ kept gone node,
    place.location = kept ++ gone ∧ gone.length = place.removed ∧
    root.get? kept = some node ∧ node.isDirectory = true

namespace Place.Rests

variable {root : Node} {place : Place}

theorem isDirectory_root (rests : place.Rests root) :
    root.isDirectory = true := by
  obtain ⟨kept, _, node, _, _, there, directory⟩ := rests
  exact Node.isDirectory_of_get? there directory

theorem start (directory : root.isDirectory = true) : Place.root.Rests root :=
  ⟨[], [], root, rfl, rfl, rfl, directory⟩

theorem above (rests : place.Rests root) : place.above.Rests root := by
  obtain ⟨kept, gone, node, location, removed, there, directory⟩ := rests
  rcases List.eq_nil_or_concat gone with rfl | ⟨before, last, rfl⟩
  · rcases List.eq_nil_or_concat kept with rfl | ⟨front, name, rfl⟩
    · exact ⟨[], [], node, by simp [Place.above, location],
        by simp [Place.above, ← removed], there, directory⟩
    · rw [List.concat_eq_append] at location there
      obtain ⟨outer, found⟩ := Node.exists_of_get?_append there
      exact ⟨front, [], outer, by simp [Place.above, location],
        by simp [Place.above, ← removed], found,
        Node.isDirectory_of_get?_append found there (List.cons_ne_nil _ _)⟩
  · rw [List.concat_eq_append] at location removed
    refine ⟨kept, before, node, ?_, by simp [Place.above, ← removed],
      there, directory⟩
    rw [Place.above, location, ← List.append_assoc]
    exact List.dropLast_concat

theorem isDirectory (rests : place.Rests root)
    (present : place.isRemoved = false) {node : Node}
    (there : root.get? place.location = some node) :
    node.isDirectory = true := by
  obtain ⟨kept, gone, other, location, removed, found, directory⟩ := rests
  have nothing : gone = [] := by
    rw [← List.length_eq_zero_iff, removed]
    simpa [Place.isRemoved] using present
  rw [location, nothing, List.append_nil] at there
  cases there.symm.trans found
  exact directory

theorem of_isDirectoryAt (directory : World.isDirectoryAt root place = true)
    (present : place.isRemoved = false) : place.Rests root := by
  rw [World.isDirectoryAt, present, Bool.false_or] at directory
  have stays : place.removed = 0 := by simpa [Place.isRemoved] using present
  cases there : root.get? place.location with
  | none => simp [there] at directory
  | some node =>
      exact ⟨place.location, [], node, (List.append_nil _).symm,
        stays.symm, there, by simpa [there] using directory⟩

end Place.Rests

namespace World

section Join

variable {directory name : String}

theorem startOf_join (world : World) (nonempty : directory ≠ "")
    (noSlash : '/' ∉ name.toList) :
    world.startOf (Path.join directory name) = world.startOf directory := by
  rw [startOf, startOf, Path.isAbsolute_join nonempty noSlash]

theorem passable_join_iff (passable : Passable directory)
    (noSlash : '/' ∉ name.toList) :
    Passable (Path.join directory name) ↔
      '\x00' ∉ name.toList ∧
      (Path.join directory name).utf8ByteSize < pathLimit := by
  have nonempty : directory ≠ "" := by simpa using passable.nonempty
  obtain ⟨front, shape, same⟩ := Path.exists_toList_join nonempty noSlash
  have noNul : '\x00' ∉ front := by
    have absent : '\x00' ∉ directory.toList := by simpa using passable.noNul
    rcases same with same | same
    · exact same ▸ absent
    · rw [same, List.mem_append, not_or] at absent
      exact absent.1
  have nul : (Path.join directory name).toList.contains '\x00' = false ↔
      '\x00' ∉ name.toList := by
    simp [shape, noNul]
  have something : (Path.join directory name).isEmpty = false := by
    rw [Bool.eq_false_iff, ne_eq,
      String.isEmpty_iff, ← String.toList_eq_nil_iff, shape]
    simp
  constructor
  · rintro ⟨noNulJoined, _, short⟩
    exact ⟨nul.mp noNulJoined, short⟩
  · rintro ⟨noNulName, short⟩
    exact ⟨nul.mpr noNulName, something, short⟩

end Join

section Walks

variable {root : Node} {fuel links : Nat} {here : Place} {front : List PathStep}
  {found : Found}

/-- A walk to a directory is the beginning of all walks that go on from
there. -/
theorem Walks.leads (walks : Walks root .target fuel links here front found)
    (listable : found.IsDirectory) (rests : here.Rests root) :
    ∃ place less left, World.arrive root place = .ok found ∧ place.Rests root ∧
      ∀ more back, walk root .target (fuel + more) links here (front ++ back) =
        walk root .target (less + 1 + more) left place back := by
  -- Each step of the walk is one of the longer walk too, so both have the same
  -- fuel and the same links left when they are there.
  induction walks with
  | @arrive fuel links here _ arrived =>
      exact ⟨here, fuel, links, arrived, rests, fun _ _ => rfl⟩
  | stay directory idle _ induction =>
      obtain ⟨place, less, left, arrived, restsThere, same⟩ :=
        induction listable rests
      refine ⟨place, less, left, arrived, restsThere, fun more back => ?_⟩
      rw [← same, Nat.add_right_comm, List.cons_append]
      rcases idle with rfl | rfl <;> simp [walk, directory]
  | up directory _ induction =>
      obtain ⟨place, less, left, arrived, restsThere, same⟩ :=
        induction listable rests.above
      refine ⟨place, less, left, arrived, restsThere, fun more back => ?_⟩
      rw [← same, Nat.add_right_comm, List.cons_append]
      simp [walk, directory]
  | vacant => exact listable.elim
  | entry _ _ unfollowed => cases (followed_target _).symm.trans unfollowed
  | @link fuel links here name target rest _ looks there _ somewhere goOn
      induction =>
      have restsStart :
          (if Path.isAbsolute target.toList then Place.root
            else here).Rests root := by
        split
        · exact .start rests.isDirectory_root
        · exact rests
      obtain ⟨place, less, left, arrived, restsThere, same⟩ :=
        induction listable restsStart
      refine ⟨place, less, left, arrived, restsThere, fun more back => ?_⟩
      rw [← same, Nat.add_right_comm, List.cons_append,
        walk_of_looks looks.forTarget, there, List.append_assoc]
      simp only [followed_target, somewhere, Bool.false_eq_true, if_false]
  | @enter fuel links here name rest node _ looks there _ noLink goOn
      induction =>
      have restsBelow : (here.below name).Rests root :=
        .of_isDirectoryAt (isDirectoryAt_of_walks goOn listable) looks.present
      obtain ⟨place, less, left, arrived, restsThere, same⟩ :=
        induction listable restsBelow
      refine ⟨place, less, left, arrived, restsThere, fun more back => ?_⟩
      rw [← same, Nat.add_right_comm, List.cons_append,
        walk_of_looks looks.forTarget, there]
      simp only [followed_target, Bool.false_eq_true, if_false]
      cases node with
      | link target => exact absurd rfl (noLink target)
      | directory entries => rfl
      | file executable number => rfl
      | program program => rfl
      | null => rfl

/-- What is found by a walk that has only one name left. -/
theorem Walks.lastStep_cases {name : String} {place : Place}
    {location : List String} {node : Node}
    (walks : Walks root .target fuel links place [Path.lastStep name]
      (.node location node)) (rests : place.Rests root)
    (noDirectory : node.isDirectory = false) :
    ∃ next, place.isRemoved = false ∧
      root.get? (place.below name).location = some next ∧
      (next = node ∨ ∃ target, next = .link target) := by
  have reaches {fuel links : Nat} {place : Place}
      (walks : Walks root .target fuel links place [] (.node location node)) :
      place.isRemoved = false ∧ root.get? place.location = some node := by
    cases walks with
    | arrive arrived =>
        rcases arrive_cases arrived with ⟨_, orphan⟩ |
          ⟨other, present, there, same⟩
        · cases orphan
        · cases same
          exact ⟨present, there⟩
  have stays {fuel links : Nat} {place : Place} (rests : place.Rests root)
      (walks : Walks root .target fuel links place [] (.node location node)) :
        False := by
    obtain ⟨present, there⟩ := reaches walks
    exact Bool.false_ne_true
      (noDirectory.symm.trans (rests.isDirectory present there))
  -- A step that names nothing new ends in a directory, and that is not what was
  -- found.
  by_cases empty : name = ""
  · rw [Path.lastStep, if_pos empty] at walks
    cases walks with
    | stay _ _ goOn => exact (stays rests goOn).elim
  · rw [Path.lastStep, if_neg empty] at walks
    cases walks with
    | stay _ _ goOn => exact (stays rests goOn).elim
    | up _ goOn => exact (stays rests.above goOn).elim
    | entry _ _ unfollowed => cases (followed_target _).symm.trans unfollowed
    | link looks there => exact ⟨_, looks.present, there, .inr ⟨_, rfl⟩⟩
    | enter looks there _ _ goOn =>
        obtain ⟨_, reached⟩ := reaches goOn
        exact ⟨_, looks.present, there,
          .inl (Option.some.inj (there.symm.trans reached))⟩

end Walks

end World

end JobShell
