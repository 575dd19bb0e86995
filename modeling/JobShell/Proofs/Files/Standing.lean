import JobShell.Proofs.Files.Append
import JobShell.Proofs.Files.Places

/-!
# The path of a directory leads to it

Nothing that a walk comes to is a link, for links are followed.  So the names on
the way to it lead to it once more, and the path that is made of them is its one
canonical path, from wherever one sets out.
-/

namespace JobShell

namespace Node

@[simp] theorem get?_append (root : Node) (front back : List String) :
    root.get? (front ++ back) = (root.get? front).bind fun node =>
      node.get? back := by
  induction front generalizing root with
  | nil => rfl
  | cons name front induction =>
      rw [List.cons_append, get?, get?, Option.bind_assoc]
      congr 1
      funext next
      exact induction next

/-- What leads on to something is a directory. -/
theorem isDirectory_of_get?_append {root above node : Node}
    {front back : List String} (found : root.get? front = some above)
    (there : root.get? (front ++ back) = some node)
    (further : back ≠ []) : above.isDirectory = true := by
  rw [get?_append, found, Option.bind_some] at there
  cases back with
  | nil => exact absurd rfl further
  | cons name rest =>
      obtain ⟨next, child, _⟩ := Option.bind_eq_some_iff.mp there
      exact isDirectory_of_child? child

/-- What has a directory in it is one. -/
theorem isDirectory_of_get? {root node : Node} {location : List String}
    (there : root.get? location = some node)
    (directory : node.isDirectory = true) :
    root.isDirectory = true := by
  have top : root.get? [] = some root := rfl
  cases location with
  | nil =>
      cases top.symm.trans there
      exact directory
  | cons name rest =>
      exact isDirectory_of_get?_append top there (List.cons_ne_nil _ _)

theorem exists_of_get?_append {root node : Node} {front back : List String}
    (there : root.get? (front ++ back) = some node) :
    ∃ above, root.get? front = some above := by
  rw [get?_append] at there
  obtain ⟨above, found, _⟩ := Option.bind_eq_some_iff.mp there
  exact ⟨above, found⟩

end Node

namespace World

section Walks

variable {root node : Node} {fuel links : Nat} {here : Place}
  {steps : List PathStep} {found : Found}

/-- A place in the tree, and no link. -/
structure IsFirm (root : Node) (here : Place) : Prop where
  present : here.isRemoved = false
  noLink : ∀ target, root.get? here.location ≠ some (.link target)

theorem isFirm_root (directory : root.isDirectory = true) :
    IsFirm root .root := by
  refine ⟨rfl, ?_⟩
  intro target there
  cases there
  cases directory

/-- Above a directory of the tree there is another one. -/
theorem IsFirm.above (firm : IsFirm root here)
    (directory : isDirectoryAt root here = true) :
    IsFirm root here.above := by
  have stays : here.removed = 0 := by simpa [Place.isRemoved] using firm.present
  refine ⟨by simp [Place.isRemoved, Place.above, stays], ?_⟩
  intro target link
  rcases List.eq_nil_or_concat here.location with top | ⟨above, last, below⟩
  · apply firm.noLink target
    rw [← link, Place.above, top]
    rfl
  · rw [List.concat_eq_append] at below
    rw [Place.above, below, List.dropLast_concat] at link
    rw [isDirectoryAt, firm.present, Bool.false_or, below] at directory
    cases there : root.get? (above ++ [last]) with
    | none => simp [there] at directory
    | some node =>
        cases Node.isDirectory_of_get?_append link there (List.cons_ne_nil _ _)

/-- A walk that follows links does not end at one. -/
theorem Walks.noLink {location : List String}
    (walks : Walks root .target fuel links here steps (.node location node))
    (directory : root.isDirectory = true) (firm : IsFirm root here) :
    ∀ target, node ≠ .link target := by
  generalize ending : Found.node location node = found at walks
  induction walks with
  | arrive arrived =>
      subst ending
      rcases arrive_cases arrived with ⟨_, orphan⟩ | ⟨other, _, there, same⟩
      · cases orphan
      · cases same
        rintro target rfl
        exact firm.noLink target there
  | stay _ _ _ induction => exact induction firm ending
  | up inDirectory _ induction =>
      exact induction (firm.above inDirectory) ending
  | vacant => cases ending
  | entry _ _ unfollowed => cases (followed_target _).symm.trans unfollowed
  | link _ _ _ _ _ induction =>
      apply induction _ ending
      split
      · exact isFirm_root directory
      · exact firm
  | enter looks there _ noLink _ induction =>
      apply induction _ ending
      refine ⟨looks.present, ?_⟩
      intro target link
      exact noLink target (Option.some.inj (there.symm.trans link))

/-- The first name that is looked for is the first one that leads somewhere
else. -/
theorem names_of_looks {goal : WalkGoal} {name : String} {names : List String}
    (looks : Looks root goal here name steps)
    (named : (PathStep.name name :: steps).filter (!·.isIdle) =
      names.map .name) :
    ∃ others,
      names = name :: others ∧ steps.filter (!·.isIdle) = others.map .name := by
  rw [List.filter_cons_of_pos (by simp [PathStep.isIdle, looks.notHere])]
    at named
  cases names with
  | nil => cases named
  | cons first others =>
      obtain ⟨same, later⟩ := List.cons.inj named
      cases same
      exact ⟨others, rfl, later⟩

/-- Names lead to what stands under them. -/
theorem Walks.found_of_names
    (walks : Walks root .target fuel links here steps found)
    (present : here.isRemoved = false) {names : List String}
    (named : steps.filter (!·.isIdle) = names.map .name)
    (proper : ∀ name ∈ names, IsFileName name)
    (there : root.get? (here.location ++ names) = some node)
    (noLink : ∀ target, node ≠ .link target) :
    found = .node (here.location ++ names) node := by
  induction walks generalizing names with
  | @arrive _ _ here _ arrived =>
      obtain rfl : names = [] := by simpa using named.symm
      rw [List.append_nil] at there ⊢
      rcases arrive_cases arrived with ⟨removed, _⟩ | ⟨other, _, reached, rfl⟩
      · cases removed.symm.trans present
      · cases reached.symm.trans there
        rfl
  | stay _ idle _ induction =>
      apply induction present _ proper there
      rw [List.filter_cons_of_neg (by simp [PathStep.isIdle_iff.mpr idle])]
        at named
      exact named
  | up =>
      cases names with
      | nil => simp [PathStep.isIdle] at named
      | cons name names =>
          obtain ⟨rfl, _⟩ : ".." = name ∧ _ := by
            simpa [PathStep.isIdle] using named
          exact absurd rfl (proper _ List.mem_cons_self).notAbove
  | vacant looks absent =>
      obtain ⟨others, rfl, _⟩ := names_of_looks looks named
      rw [List.append_cons] at there
      obtain ⟨next, reached⟩ := Node.exists_of_get?_append there
      cases reached.symm.trans absent
  | entry _ _ unfollowed => cases (followed_target _).symm.trans unfollowed
  | @link _ _ here name target rest _ looks linked =>
      obtain ⟨others, rfl, _⟩ := names_of_looks looks named
      rw [List.append_cons] at there
      cases others with
      | nil =>
          rw [List.append_nil] at there
          exact absurd (Option.some.inj (there.symm.trans linked))
            (noLink target)
      | cons other others =>
          cases Node.isDirectory_of_get?_append linked there
            (List.cons_ne_nil _ _)
  | @enter _ _ here name rest _ _ looks reached _ _ _ induction =>
      obtain ⟨others, rfl, later⟩ := names_of_looks looks named
      rw [List.append_cons] at there ⊢
      exact induction looks.present later
        (fun other member => proper other (List.mem_cons_of_mem _ member)) there

end Walks

/-- The world seen from another directory of the tree. -/
def movedTo (world : World) (location : List String) : World :=
  { world with place := { location, removed := 0 } }

theorem movedTo_home {world : World} (present : world.place.isRemoved = false) :
    world.movedTo world.place.location = world := by
  have stays : world.place.removed = 0 := by
    simpa [Place.isRemoved] using present
  rw [movedTo, ← stays]

/-- Whoever is in a directory of the tree is told its path. -/
theorem currentDirectory_of_present {world : World}
    (present : world.place.isRemoved = false) :
    world.currentDirectory = .ok (pathOf world.place.location) := by
  rw [currentDirectory, present]
  rfl

/-- A directory of the tree, under names of files, that can be entered by its
path. -/
structure Admits (world : World) (location : List String) : Prop where
  proper : ∀ name ∈ location, IsFileName name
  directory : isDirectoryAt world.files.root { location, removed := 0 } = true
  enters : ∃ next, world.enter (pathOf location) = .ok next

section Paths

variable {world other : World} {location : List String} {path : String}

theorem filter_steps_pathOf (proper : ∀ name ∈ location, IsFileName name) :
    (Path.steps (pathOf location).toList).filter (!·.isIdle) =
      location.map .name := by
  rw [filter_steps, Path.plainNames, names_pathOf proper,
    List.filter_eq_self.mpr]
  intro name member
  simpa using (proper name member).notHere

theorem startOf_pathOf (world : World) (location : List String) :
    world.startOf (pathOf location) = .root := by
  rw [startOf, isAbsolute_pathOf]
  rfl

/-- The path of something that is no link leads to it, if it leads anywhere. -/
theorem resolve_pathOf {found : Found} {node : Node}
    (proper : ∀ name ∈ location, IsFileName name)
    (there : world.files.root.get? location = some node)
    (noLink : ∀ target, node ≠ .link target)
    (resolved : world.resolve .target (pathOf location) = .ok found) :
    found = .node location node := by
  obtain ⟨_, walks⟩ := resolve_eq_ok_iff.mp resolved
  rw [startOf_pathOf] at walks
  exact walks.found_of_names rfl (filter_steps_pathOf proper) proper
    there noLink

theorem lookup_of_enter {next : World} (entered : world.enter path = .ok next) :
    ∃ found, world.lookup path = .ok found := by
  unfold World.enter at entered
  cases looked : world.lookup path with
  | error error =>
      rw [looked] at entered
      cases entered
  | ok found => exact ⟨found, rfl⟩

theorem walkPath_of_resolve {goal : WalkGoal} {found : Found}
    (resolved : world.resolve goal path = .ok found) :
    world.walkPath goal path = .ok found := by
  unfold World.resolve at resolved
  split at resolved
  · cases resolved
  · exact resolved

theorem walks_of_walkPath {goal : WalkGoal} {found : Found}
    (walked : world.walkPath goal path = .ok found) :
    Walks world.files.root goal (fuelFor path) linkLimit (world.startOf path)
      (Path.steps path.toList) found := by
  unfold World.walkPath at walked
  split at walked
  · cases walked
  · split at walked
    · cases walked
    · change (walk world.files.root goal (fuelFor path) linkLimit
        (world.startOf path)
        (Path.steps path.toList)).mapError FileError.system =
        .ok found at walked
      cases ended : walk world.files.root goal (fuelFor path) linkLimit
        (world.startOf path)
          (Path.steps path.toList) with
      | error errno =>
          rw [ended] at walked
          cases walked
      | ok other =>
          rw [ended] at walked
          cases walked
          exact walks_of_walk ended

/-- What is found for a path when it is made one without links and dots. -/
theorem walkPath_of_canonicalize {target : String}
    (resolved : world.canonicalize target = .ok path) :
    ∃ location node, world.walkPath .target target = .ok (.node location node) ∧
      path = pathOf location := by
  unfold World.canonicalize at resolved
  split at resolved
  · cases resolved
  · cases walked : world.walkPath .target target with
    | error error =>
        rw [walked] at resolved
        cases resolved
    | ok found =>
        rw [walked] at resolved
        cases found with
        | vacant location => cases resolved
        | orphan place => cases resolved
        | node location node =>
            cases resolved
            exact ⟨location, node, rfl, rfl⟩

namespace Admits

theorem exists_node (admits : world.Admits location) :
    ∃ node,
      world.files.root.get? location = some node ∧ node.isDirectory = true := by
  have directory := admits.directory
  cases there : world.files.root.get? location with
  | none => simp [isDirectoryAt, Place.isRemoved, there] at directory
  | some node =>
      refine ⟨node, rfl, ?_⟩
      simpa [isDirectoryAt, Place.isRemoved, there] using directory

theorem noLink (admits : world.Admits location) :
    ∀ target, world.files.root.get? location ≠ some (.link target) := by
  obtain ⟨node, there, directory⟩ := admits.exists_node
  intro target link
  cases there.symm.trans link
  cases directory

theorem lookup (admits : world.Admits location) :
    ∃ node, node.isDirectory = true ∧
      world.lookup (pathOf location) = .ok (.node location node) := by
  obtain ⟨node, there, directory⟩ := admits.exists_node
  obtain ⟨next, entered⟩ := admits.enters
  obtain ⟨found, looked⟩ := lookup_of_enter entered
  have noLink : ∀ target, node ≠ .link target := by
    rintro target rfl
    exact admits.noLink target there
  rw [resolve_pathOf admits.proper there noLink (resolve_of_lookup looked)]
    at looked
  exact ⟨node, directory, looked⟩

theorem isDirectory_root (admits : world.Admits location) :
    world.files.root.isDirectory = true := by
  obtain ⟨node, there, directory⟩ := admits.exists_node
  exact Node.isDirectory_of_get? there directory

theorem isFirm {place : Place} (admits : world.Admits place.location)
    (present : place.isRemoved = false) : IsFirm world.files.root place :=
  ⟨present, admits.noLink⟩

theorem enter (admits : world.Admits location) :
    world.enter (pathOf location) = .ok (world.movedTo location) := by
  obtain ⟨node, directory, looked⟩ := admits.lookup
  simp only [World.enter, looked, directory, if_true]
  rfl

theorem isDirectory (admits : world.Admits location) :
    world.isDirectory (pathOf location) = true := by
  obtain ⟨node, directory, looked⟩ := admits.lookup
  simp only [World.isDirectory, looked, directory]

/-- The path of a directory is its own canonical path. -/
theorem canonicalize (admits : world.Admits location) :
    world.canonicalize (pathOf location) = .ok (pathOf location) := by
  obtain ⟨node, _, looked⟩ := admits.lookup
  have walked := walkPath_of_resolve (resolve_of_lookup looked)
  simp [World.canonicalize, isAbsolute_pathOf, walked, Except.bind, present]

/-- It does not matter from where one comes. -/
theorem movedTo (admits : world.Admits location) (away : List String) :
    (world.movedTo away).Admits location := by
  refine ⟨admits.proper, admits.directory, world.movedTo location, ?_⟩
  have machine : SameMachine world (world.movedTo away) := ⟨rfl, rfl, rfl⟩
  have same := lookup_of_isFixed machine (.inl (isAbsolute_pathOf location))
  obtain ⟨node, directory, looked⟩ := admits.lookup
  simp only [World.enter, same, looked, directory, if_true]
  rfl

end Admits

/-- Who comes from a directory of the tree, and has found his way by the
canonical path to another one, may find it again. -/
theorem admits_of_canonicalize {target : String} {next : World}
    (present : world.place.isRemoved = false)
    (here : world.Admits world.place.location)
    (resolved : world.canonicalize target = .ok path)
    (entered : world.enter path = .ok next) :
    ∃ location, path = pathOf location ∧ next = world.movedTo location ∧
      world.Admits location := by
  obtain ⟨location, node, walked, rfl⟩ := walkPath_of_canonicalize resolved
  have walks := walks_of_walkPath walked
  have start : IsFirm world.files.root (world.startOf target) ∧
      (world.startOf target).Proper := by
    unfold startOf
    split
    · exact ⟨isFirm_root here.isDirectory_root, List.forall_mem_nil _⟩
    · exact ⟨here.isFirm present, here.proper⟩
  have proper : ∀ name ∈ location, IsFileName name :=
    walks.proper start.2 fun name member => Path.plain_of_name_mem_steps member
  have noLink := walks.noLink here.isDirectory_root start.1
  obtain ⟨found, looked⟩ := lookup_of_enter entered
  rw [resolve_pathOf proper (get?_of_walks_node walks) noLink
    (resolve_of_lookup looked)] at looked
  have reached := entered
  simp only [World.enter, looked] at reached
  split at reached
  · next directory =>
      cases reached
      refine ⟨location, rfl, rfl, proper, ?_, _, entered⟩
      simp [isDirectoryAt, get?_of_walks_node walks, directory]
  · cases reached

end Paths

end World

end JobShell
