import JobShell.Files.Search
import JobShell.Proofs.Files.Components
import JobShell.Proofs.Files.Walk

/-!
# Places and the paths to them

A walk leads to its place by names of files.  An absolute path leads to the same
directory from everywhere, and so does any other with the same components.
-/

namespace JobShell

def Place.Proper (place : Place) : Prop :=
  ∀ name ∈ place.location, IsFileName name

namespace Found

/-- The way to what a walk has found goes by names of files. -/
def Proper : Found → Prop
  | .node location _ => ∀ name ∈ location, IsFileName name
  | .vacant _ => True
  | .orphan place => place.Proper

/-- What can be listed. -/
def IsDirectory : Found → Prop
  | .node _ content => content.isDirectory = true
  | .vacant _ => False
  | .orphan _ => True

end Found

/-- The step leads nowhere. -/
def PathStep.isIdle : PathStep → Bool
  | .slash => true
  | .name text => text == "."

theorem PathStep.isIdle_iff {step : PathStep} :
    step.isIdle = true ↔ step = .slash ∨ step = .name "." := by
  cases step <;> simp [isIdle]

namespace World

theorem Walks.proper {root : Node} {goal : WalkGoal} {fuel links : Nat}
    {here : Place} {steps : List PathStep} {found : Found}
    (walks : Walks root goal fuel links here steps found) (proper : here.Proper)
    (plain : ∀ name, PathStep.name name ∈ steps →
      name ≠ "" ∧ '/' ∉ name.toList) :
    found.Proper := by
  have below {here : Place} {name : String} {rest : List PathStep}
      (looks : Looks root goal here name rest) (proper : here.Proper)
      (plain : ∀ other, PathStep.name other ∈ PathStep.name name :: rest →
        other ≠ "" ∧ '/' ∉ other.toList) : (here.below name).Proper := by
    intro other member
    rcases List.mem_append.mp member with before | last
    · exact proper other before
    · obtain ⟨nonempty, noSlash⟩ := plain name List.mem_cons_self
      rw [List.mem_singleton.mp last]
      exact ⟨nonempty, noSlash, looks.notHere, looks.notAbove⟩
  induction walks with
  | arrive arrived =>
      rcases arrive_cases arrived with ⟨_, rfl⟩ | ⟨node, _, _, rfl⟩
      · exact proper
      · exact proper
  | stay _ _ _ induction =>
      exact induction proper fun name member =>
        plain name (List.mem_cons_of_mem _ member)
  | up _ _ induction =>
      refine induction ?_ fun name member =>
        plain name (List.mem_cons_of_mem _ member)
      intro name member
      exact proper name ((List.dropLast_sublist _).subset member)
  | vacant => trivial
  | entry looks => exact below looks proper plain
  | @link _ _ here _ target _ _ _ _ _ _ _ induction =>
      apply induction
      · split
        · exact nofun
        · exact proper
      · intro name member
        rcases List.mem_append.mp member with inTarget | later
        · exact Path.plain_of_name_mem_steps inTarget
        · exact plain name (List.mem_cons_of_mem _ later)
  | enter looks _ _ _ _ induction =>
      exact induction (below looks proper plain) fun name member =>
        plain name (List.mem_cons_of_mem _ member)

theorem proper_of_lookup {world : World} {path : String} {found : Found}
    (looked : world.lookup path = .ok found)
    (proper : world.place.Proper) : found.Proper := by
  have walks := (resolve_eq_ok_iff.mp (resolve_of_lookup looked)).2
  have start : (world.startOf path).Proper := by
    unfold startOf
    split
    · exact nofun
    · exact proper
  exact walks.proper start fun name member =>
    Path.plain_of_name_mem_steps member

/-- The two see the same files and the same environment, each from its place. -/
structure SameMachine (world other : World) : Prop where
  files : other.files = world.files
  environment : other.environment = world.environment
  accountHome : other.accountHome = world.accountHome

theorem SameMachine.refl (world : World) : SameMachine world world :=
  ⟨rfl, rfl, rfl⟩

theorem SameMachine.symm {world other : World}
    (same : SameMachine world other) :
    SameMachine other world :=
  ⟨same.files.symm, same.environment.symm, same.accountHome.symm⟩

theorem SameMachine.trans {world other last : World}
    (first : SameMachine world other)
    (second : SameMachine other last) : SameMachine world last :=
  ⟨second.files.trans first.files, second.environment.trans first.environment,
    second.accountHome.trans first.accountHome⟩

/-- A change of the working directory changes nothing else. -/
theorem enter_ok {world next : World} {path : String}
    (entered : world.enter path = .ok next) (proper : world.place.Proper) :
    next.place.Proper ∧ SameMachine world next := by
  unfold World.enter at entered
  cases looked : world.lookup path with
  | error error =>
      rw [looked] at entered
      cases entered
  | ok found =>
      rw [looked] at entered
      have ends := proper_of_lookup looked proper
      cases found with
      | vacant => cases entered
      | orphan place =>
          cases entered
          exact ⟨ends, ⟨rfl, rfl, rfl⟩⟩
      | node location node =>
          dsimp only at entered
          split at entered
          · cases entered
            exact ⟨ends, ⟨rfl, rfl, rfl⟩⟩
          · cases entered

theorem isDirectoryAt_of_walks {root : Node} {fuel links : Nat} {here : Place}
    {steps : List PathStep} {found : Found}
    (walks : Walks root .target fuel links here steps found)
    (listable : found.IsDirectory) : isDirectoryAt root here = true := by
  cases walks with
  | arrive arrived =>
      unfold isDirectoryAt
      rcases arrive_cases arrived with ⟨removed, _⟩ | ⟨node, _, there, rfl⟩
      · rw [removed, Bool.true_or]
      · have directory : node.isDirectory = true := listable
        simp [there, directory]
  | stay directory | up directory => exact directory
  | vacant looks | entry looks | link looks | enter looks =>
      exact looks.directory

section Idle

variable {root : Node} {fuel links : Nat} {here : Place}
  {front back : List PathStep} {step : PathStep} {found : Found}

theorem Walks.insert (idle : step = .slash ∨ step = .name ".")
    (listable : found.IsDirectory)
    (walks : Walks root .target fuel links here (front ++ back) found) :
    Walks root .target (fuel + 1) links here (front ++ step :: back) found := by
  induction fuel generalizing links here front with
  | zero => cases walks
  | succ fuel induction =>
      cases front with
      | nil => exact .stay (isDirectoryAt_of_walks walks listable) idle walks
      | cons first front =>
          rw [List.cons_append] at walks ⊢
          cases walks with
          | stay directory idleFirst goOn =>
              exact .stay directory idleFirst (induction goOn)
          | up directory goOn => exact .up directory (induction goOn)
          | vacant => exact listable.elim
          | entry _ _ unfollowed =>
              cases (followed_target _).symm.trans unfollowed
          | link looks there _ somewhere goOn =>
              refine .link looks.forTarget there
                (followed_target _) somewhere ?_
              rw [← List.append_assoc] at goOn ⊢
              exact induction goOn
          | enter looks there _ noLink goOn =>
              exact .enter looks.forTarget there (followed_target _) noLink
                (induction goOn)

theorem Walks.remove (idle : step = .slash ∨ step = .name ".")
    (listable : found.IsDirectory)
    (walks : Walks root .target fuel links here (front ++ step :: back) found) :
    ∃ less, fuel = less + 1 ∧
      Walks root .target less links here (front ++ back) found := by
  induction fuel generalizing links here front with
  | zero => cases walks
  | succ fuel induction =>
      cases front with
      | nil =>
          cases walks with
          | stay directory _ goOn => exact ⟨fuel, rfl, goOn⟩
          | up directory goOn => simp at idle
          | vacant => exact listable.elim
          | entry _ _ unfollowed =>
              cases (followed_target _).symm.trans unfollowed
          | link looks | enter looks =>
              exact absurd idle (by simpa using looks.notHere)
      | cons first front =>
          rw [List.cons_append] at walks ⊢
          cases walks with
          | stay directory idleFirst goOn =>
              obtain ⟨less, rfl, shorter⟩ := induction goOn
              exact ⟨less + 1, rfl, .stay directory idleFirst shorter⟩
          | up directory goOn =>
              obtain ⟨less, rfl, shorter⟩ := induction goOn
              exact ⟨less + 1, rfl, .up directory shorter⟩
          | vacant => exact listable.elim
          | entry _ _ unfollowed =>
              cases (followed_target _).symm.trans unfollowed
          | link looks there _ somewhere goOn =>
              rw [← List.append_assoc] at goOn
              obtain ⟨less, rfl, shorter⟩ := induction goOn
              rw [List.append_assoc] at shorter
              exact ⟨less + 1, rfl,
                .link looks.forTarget there
                  (followed_target _) somewhere shorter⟩
          | enter looks there _ noLink goOn =>
              obtain ⟨less, rfl, shorter⟩ := induction goOn
              exact ⟨less + 1, rfl,
                .enter looks.forTarget there (followed_target _) noLink shorter⟩

/-- A step that stays takes one step of the walk and nothing else. -/
theorem walks_insert_iff (idle : step = .slash ∨ step = .name ".")
    (listable : found.IsDirectory) :
    Walks root .target (fuel + 1) links here (front ++ step :: back) found ↔
      Walks root .target fuel links here (front ++ back) found := by
  constructor
  · intro walks
    obtain ⟨less, same, shorter⟩ := walks.remove idle listable
    cases same
    exact shorter
  · exact Walks.insert idle listable

theorem walks_filter_iff {steps : List PathStep}
    (listable : found.IsDirectory) :
    Walks root .target (fuel + steps.length) links here (front ++ steps) found ↔
      Walks root .target (fuel + (steps.filter (!·.isIdle)).length) links here
        (front ++ steps.filter (!·.isIdle)) found := by
  induction steps generalizing fuel front with
  | nil => rfl
  | cons step steps induction =>
      cases idle : step.isIdle with
      | true =>
          rw [List.filter_cons_of_neg (by simp [idle]),
            List.length_cons, ← Nat.add_assoc,
            walks_insert_iff (PathStep.isIdle_iff.mp idle) listable, induction]
      | false =>
          have later := @induction (fuel + 1) (front ++ [step])
          rw [List.append_assoc, List.append_assoc] at later
          rw [List.filter_cons_of_pos (by simp [idle]), List.length_cons,
            List.length_cons, ← Nat.succ_add_eq_add_succ,
            ← Nat.succ_add_eq_add_succ]
          exact later

end Idle

section Spelling

variable {world : World} {path other : String} {found : Found}

theorem filter_steps (path : List Char) :
    (Path.steps path).filter (!·.isIdle) =
      (Path.plainNames path).map .name := by
  have slash :
      (if path.getLast? == some '/' then [PathStep.slash] else []).filter
      (!·.isIdle) = [] := by
    split <;> simp [PathStep.isIdle]
  rw [Path.steps, List.filter_append, slash, List.append_nil, List.filter_map,
    Path.plainNames]
  rfl

theorem lookup_eq_ok_iff (listable : found.IsDirectory) :
    world.lookup path = .ok found ↔
      Passable path ∧ Walks world.files.root .target
        (linkLimit * pathLimit + 1 +
          (Path.plainNames path.toList).length) linkLimit
        (world.startOf path)
          ((Path.plainNames path.toList).map .name) found := by
  have resolved : world.lookup path = .ok found ↔
      world.resolve .target path = .ok found := by
    refine ⟨resolve_of_lookup, fun there => ?_⟩
    rw [World.lookup, there]
    cases found with
    | vacant location => exact listable.elim
    | node location node => rfl
    | orphan place => rfl
  have enough : fuelFor path = linkLimit * pathLimit + 1 +
      (Path.steps path.toList).length := by
    unfold fuelFor
    omega
  have filtered :=
    @walks_filter_iff world.files.root (linkLimit * pathLimit + 1) linkLimit
    (world.startOf path) [] found (Path.steps path.toList) listable
  rw [filter_steps, List.nil_append, List.nil_append,
    List.length_map] at filtered
  rw [resolved, resolve_eq_ok_iff, enough, filtered]

theorem directoryNames_eq_nil
    (unlisted : ¬∃ found : Found,
      found.IsDirectory ∧ world.lookup path = .ok found) :
    world.directoryNames path = [] := by
  unfold directoryNames list
  cases looked : world.lookup path with
  | error error => rfl
  | ok found =>
      cases found with
      | vacant location => simp
      | orphan place => exact absurd ⟨.orphan place, trivial, looked⟩ unlisted
      | node location node =>
          cases node with
          | directory entries =>
              exact absurd ⟨.node location (.directory entries), rfl,
                looked⟩ unlisted
          | file executable number => rfl
          | link target => rfl
          | program program => rfl
          | null => rfl

/-- The names in a directory do not depend on how its absolute path is
spelled. -/
theorem directoryNames_of_components_eq
    (absolute : Path.isAbsolute path.toList = true)
    (absoluteOther : Path.isAbsolute other.toList = true)
    (short : path.utf8ByteSize < pathLimit)
    (shortOther : other.utf8ByteSize < pathLimit)
    (same : Path.components path.toList = Path.components other.toList) :
    world.directoryNames path = world.directoryNames other := by
  have plain : Path.plainNames path.toList = Path.plainNames other.toList := by
    rw [Path.plainNames_eq absolute, Path.plainNames_eq absoluteOther, same]
  have nul : path.toList.contains '\x00' = other.toList.contains '\x00' := by
    rw [Bool.eq_iff_iff, List.contains_iff_mem, List.contains_iff_mem,
      Path.mem_iff_exists_mem_plainNames (by decide) (by decide), plain,
      ← Path.mem_iff_exists_mem_plainNames (by decide) (by decide)]
  have nonempty {text : String}
      (absolute : Path.isAbsolute text.toList = true) :
      text.isEmpty = false := by
    cases empty : text.isEmpty with
    | false => rfl
    | true =>
        rw [String.isEmpty_iff.mp empty] at absolute
        cases absolute
  have passable : Passable path ↔ Passable other :=
    ⟨fun known => ⟨nul.symm.trans known.noNul, nonempty absoluteOther,
      shortOther⟩, fun known =>
      ⟨nul.trans known.noNul, nonempty absolute, short⟩⟩
  have start : world.startOf path = world.startOf other := by
    unfold startOf
    rw [absolute, absoluteOther]
  have transfer {found : Found} (listable : found.IsDirectory) :
      world.lookup path = .ok found ↔ world.lookup other = .ok found := by
    rw [lookup_eq_ok_iff listable, lookup_eq_ok_iff listable, passable,
      plain, start]
  by_cases listed : ∃ found : Found,
    found.IsDirectory ∧ world.lookup path = .ok found
  · obtain ⟨found, listable, looked⟩ := listed
    simp only [directoryNames, list, looked, (transfer listable).mp looked]
  · rw [directoryNames_eq_nil listed, directoryNames_eq_nil]
    rintro ⟨found, listable, looked⟩
    exact listed ⟨found, listable, (transfer listable).mpr looked⟩

end Spelling

/-- An absolute path does not ask where one is, and the empty path leads
nowhere. -/
def IsFixed (path : String) : Prop :=
  Path.isAbsolute path.toList = true ∨ path = ""

theorem lookup_of_isFixed {world other : World} (same : SameMachine world other)
    {path : String} (fixed : IsFixed path) :
    other.lookup path = world.lookup path := by
  rcases fixed with absolute | rfl
  · simp only [World.lookup, resolve, walkPath, absolute, same.files, if_true]
  · simp [World.lookup, resolve, walkPath]

theorem directoryNames_of_isFixed {world other : World}
    (same : SameMachine world other) {path : String} (fixed : IsFixed path) :
    other.directoryNames path = world.directoryNames path := by
  simp only [directoryNames, list, lookup_of_isFixed same fixed]

theorem isFixed_of_components_eq {path other : String} (fixed : IsFixed path)
    (same : Path.components path.toList = Path.components other.toList) :
    IsFixed other := by
  rcases fixed with absolute | rfl
  · left
    apply Path.isAbsolute_of_root_mem_components
    rw [← same, Path.components_of_isAbsolute absolute]
    exact List.mem_cons_self
  · right
    exact String.toList_eq_nil_iff.mp
      (Path.eq_nil_of_components_eq_nil same.symm)

/-- Wherever one is, all spellings of a fixed path lead to the same names. -/
theorem directoryNames_of_isFixed_of_components_eq {world next : World}
    (machine : SameMachine world next) {path other : String}
    (fixed : IsFixed other) (short : path.utf8ByteSize < pathLimit)
    (shortOther : other.utf8ByteSize < pathLimit)
    (same : Path.components path.toList = Path.components other.toList) :
    world.directoryNames path = next.directoryNames other := by
  rw [directoryNames_of_isFixed machine fixed]
  rcases isFixed_of_components_eq fixed same.symm with absolute | rfl
  · rcases fixed with absoluteOther | rfl
    · exact directoryNames_of_components_eq absolute absoluteOther short
        shortOther same
    · have nothing := Path.eq_nil_of_components_eq_nil same
      rw [nothing] at absolute
      cases absolute
  · have nothing := Path.eq_nil_of_components_eq_nil same.symm
    rw [String.toList_eq_nil_iff.mp nothing]

theorem programNames_of_isFixed {world other : World}
    (same : SameMachine world other)
    (fixed : ∀ directory ∈ world.searchPath, IsFixed directory) :
    other.programNames = world.programNames := by
  have searchPath : other.searchPath = world.searchPath := by
    simp only [World.searchPath, same.environment]
  rw [programNames, programNames, searchPath, List.flatMap_def,
    List.flatMap_def]
  congr 1
  apply List.map_congr_left
  intro directory listed
  simp only [list, lookup_of_isFixed same (fixed directory listed)]

end World

end JobShell
