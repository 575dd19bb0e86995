import JobShell.Files.World

/-!
# Walks that lead somewhere

What a walk along a path has done when it has come to an end without a
complaint.
-/

namespace JobShell.World

variable {root : Node} {goal : WalkGoal}

/-- A name may be looked for in a directory: it is neither of the two that every
directory has, and nothing speaks against it. -/
structure Looks (root : Node) (goal : WalkGoal) (here : Place) (name : String)
    (rest : List PathStep) : Prop where
  directory : isDirectoryAt root here = true
  notHere : name ≠ "."
  notAbove : name ≠ ".."
  noSlash : goal = .file → rest ≠ [.slash]
  present : here.isRemoved = false
  short : name.utf8ByteSize ≤ nameLimit

inductive Walks (root : Node) (goal : WalkGoal) :
    (fuel links : Nat) → Place → List PathStep → Found → Prop where
  | arrive {fuel links : Nat} {here : Place} {found : Found}
      (arrived : World.arrive root here = .ok found) :
      Walks root goal (fuel + 1) links here [] found
  | stay {fuel links : Nat} {here : Place} {step : PathStep}
      {rest : List PathStep} {found : Found}
      (directory : isDirectoryAt root here = true)
      (idle : step = .slash ∨ step = .name ".")
      (goOn : Walks root goal fuel links here rest found) :
      Walks root goal (fuel + 1) links here (step :: rest) found
  | up {fuel links : Nat} {here : Place} {rest : List PathStep} {found : Found}
      (directory : isDirectoryAt root here = true)
      (goOn : Walks root goal fuel links here.above rest found) :
      Walks root goal (fuel + 1) links here (.name ".." :: rest) found
  | vacant {fuel links : Nat} {here : Place} {name : String}
      {rest : List PathStep} (looks : Looks root goal here name rest)
      (absent : root.get? (here.below name).location = none)
      (last : goal.isLast rest = true) :
      Walks root goal (fuel + 1) links here (.name name :: rest)
        (.vacant (here.below name).location)
  | entry {fuel links : Nat} {here : Place} {name : String}
      {rest : List PathStep} {node : Node}
      (looks : Looks root goal here name rest)
      (there : root.get? (here.below name).location = some node)
      (unfollowed : (goal.isLast rest && !goal.followsLast) = true) :
      Walks root goal (fuel + 1) links here (.name name :: rest)
        (.node (here.below name).location node)
  | link {fuel links : Nat} {here : Place} {name target : String}
      {rest : List PathStep} {found : Found}
      (looks : Looks root goal here name rest)
      (there : root.get? (here.below name).location = some (.link target))
      (followed : (goal.isLast rest && !goal.followsLast) = false)
      (somewhere : target.isEmpty = false) (goOn : Walks root goal fuel links
        (if Path.isAbsolute target.toList then .root else here)
        (Path.steps target.toList ++ rest) found) :
      Walks root goal (fuel + 1) (links + 1) here (.name name :: rest) found
  | enter {fuel links : Nat} {here : Place} {name : String}
      {rest : List PathStep} {node : Node} {found : Found}
      (looks : Looks root goal here name rest)
      (there : root.get? (here.below name).location = some node)
      (followed : (goal.isLast rest && !goal.followsLast) = false)
      (noLink : ∀ target, node ≠ .link target)
      (goOn : Walks root goal fuel links (here.below name) rest found) :
      Walks root goal (fuel + 1) links here (.name name :: rest) found

/-- A walk for what is there is not held up by what is left to walk. -/
theorem Looks.forTarget {here : Place} {name : String}
    {rest other : List PathStep} (looks : Looks root goal here name rest) :
    Looks root .target here name other :=
  { looks with noSlash := nofun }

theorem followed_target (rest : List PathStep) :
    (WalkGoal.target.isLast rest && !WalkGoal.target.followsLast) = false := by
  simp [WalkGoal.followsLast]

/-- A walk ends in a directory that is no longer there, or at a node of the
tree. -/
theorem arrive_cases {here : Place} {found : Found}
    (arrived : World.arrive root here = .ok found) :
    (here.isRemoved = true ∧ found = .orphan here) ∨
      ∃ node, here.isRemoved = false ∧ root.get? here.location = some node ∧
        found = .node here.location node := by
  unfold World.arrive at arrived
  split at arrived
  · next removed =>
      cases arrived
      exact .inl ⟨removed, rfl⟩
  · next present =>
      split at arrived
      · cases arrived
      · next node there =>
          cases arrived
          exact .inr ⟨node, by simpa using present, there, rfl⟩

theorem walks_of_walk {fuel links : Nat} {here : Place} {steps : List PathStep}
    {found : Found}
    (walked : walk root goal fuel links here steps = .ok found) :
    Walks root goal fuel links here steps found := by
  have looks (here : Place) (name : String) (rest : List PathStep)
      (directory : ¬(!isDirectoryAt root here) = true)
      (notHere : name = "." → False) (notAbove : name = ".." → False)
      (noSlash : ¬(decide (goal = .file) && decide (rest = [PathStep.slash])) =
        true)
      (present : ¬here.isRemoved = true)
        (short : ¬name.utf8ByteSize > nameLimit) :
      Looks root goal here name rest := by
    refine ⟨by simpa using directory, notHere, notAbove, ?_,
      by simpa using present, by omega⟩
    simpa using noSlash
  fun_induction walk root goal fuel links here steps with
  | case1 => cases walked
  | case2 fuel links here fueled =>
      cases fuel with
      | zero => exact absurd rfl fueled
      | succ fuel => exact .arrive walked
  | case3 => cases walked
  | case4 fuel links here rest directory induction =>
      exact .stay (by simpa using directory) (.inl rfl) (induction walked)
  | case5 fuel links here rest directory induction =>
      exact .stay (by simpa using directory) (.inr rfl) (induction walked)
  | case6 fuel links here rest directory induction =>
      exact .up (by simpa using directory) (induction walked)
  | case7 => cases walked
  | case8 => cases walked
  | case9 => cases walked
  | case10 fuel links here rest directory name notHere notAbove noSlash present
      short next absent
      last =>
      cases walked
      exact .vacant
        (looks _ _ _ directory notHere notAbove noSlash present short)
          absent last
  | case11 => cases walked
  | case12 fuel links here rest directory name notHere notAbove noSlash present
      short next node
      there unfollowed =>
      cases walked
      exact .entry
        (looks _ _ _ directory notHere notAbove noSlash present short)
          there unfollowed
  | case13 => cases walked
  | case14 => cases walked
  | case15 fuel here rest directory name notHere notAbove noSlash present short
      next followed
      target links somewhere start there induction =>
      exact .link
        (looks _ _ _ directory notHere notAbove noSlash present short) there
        (by simpa using followed) (by simpa using somewhere) (induction walked)
  | case16 fuel links here rest directory name notHere notAbove noSlash present
      short next node
      there followed noLink noLinkLeft induction =>
      refine .enter
        (looks _ _ _ directory notHere notAbove noSlash present short) there
        (by simpa using followed) ?_ (induction walked)
      rintro target rfl
      cases links with
      | zero => exact noLink target rfl rfl
      | succ links => exact noLinkLeft target links rfl rfl

theorem walk_of_looks {fuel links : Nat} {here : Place} {name : String}
    {rest : List PathStep} (looks : Looks root goal here name rest) :
    walk root goal (fuel + 1) links here (.name name :: rest) =
      match root.get? (here.below name).location with
      | none =>
        if goal.isLast rest then .ok (.vacant (here.below name).location)
        else .error .noEntry
      | some node =>
        if goal.isLast rest && !goal.followsLast then
          .ok (.node (here.below name).location node)
        else
          match node, links with
          | .link _, 0 => .error .tooManyLinks
          | .link target, links + 1 =>
            if target.isEmpty then .error .noEntry
            else
              walk root goal fuel links
                (if Path.isAbsolute target.toList then .root else here)
                (Path.steps target.toList ++ rest)
          | _, _ => walk root goal fuel links (here.below name) rest := by
  have directory : ¬(!isDirectoryAt root here) = true := by
    simp [looks.directory]
  have noSlash :
      ¬(decide (goal = .file) && decide (rest = [PathStep.slash])) = true := by
    simpa using looks.noSlash
  have present : ¬here.isRemoved = true := by simp [looks.present]
  have short : ¬name.utf8ByteSize > nameLimit := by have := looks.short; omega
  rw [walk]
  · exact (if_neg directory).trans
      ((if_neg noSlash).trans ((if_neg present).trans (if_neg short)))
  · exact looks.notHere
  · exact looks.notAbove

theorem walk_of_walks {fuel links : Nat} {here : Place} {steps : List PathStep}
    {found : Found} (walks : Walks root goal fuel links here steps found) :
    walk root goal fuel links here steps = .ok found := by
  induction walks with
  | arrive arrived => exact arrived
  | stay directory idle goOn induction =>
      rcases idle with rfl | rfl
      · simp [walk, directory, induction]
      · simp [walk, directory, induction]
  | up directory goOn induction => simp [walk, directory, induction]
  | vacant looks absent last =>
      rw [walk_of_looks looks, absent]
      simp [last]
  | entry looks there unfollowed =>
      rw [walk_of_looks looks, there]
      simp only [unfollowed, if_true]
  | link looks there followed somewhere goOn induction =>
      rw [walk_of_looks looks, there]
      simp only [followed, somewhere, Bool.false_eq_true, if_false]
      exact induction
  | @enter fuel links here name rest node found looks there followed noLink goOn
      induction =>
      rw [walk_of_looks looks, there]
      simp only [followed, Bool.false_eq_true, if_false]
      cases node with
      | link target => exact absurd rfl (noLink target)
      | directory entries => exact induction
      | file executable number => exact induction
      | program program => exact induction
      | null => exact induction

/-- The path may be walked along. -/
structure Passable (path : String) : Prop where
  noNul : path.toList.contains '\x00' = false
  nonempty : path.isEmpty = false
  short : path.utf8ByteSize < pathLimit

/-- The most steps that a walk along a path takes. -/
def fuelFor (path : String) : Nat :=
  (Path.steps path.toList).length + linkLimit * pathLimit + 1

/-- Where a walk along a path begins. -/
def startOf (world : World) (path : String) : Place :=
  if Path.isAbsolute path.toList then .root else world.place

variable {world : World} {path : String} {found : Found}

theorem resolve_of_passable (passable : Passable path) :
    world.resolve goal path =
      (walk world.files.root goal (fuelFor path) linkLimit
      (world.startOf path) (Path.steps path.toList)).mapError .system := by
  have fits : decide (path.utf8ByteSize ≥ pathLimit) = false := by
    simpa using passable.short
  simp only [resolve, walkPath, passable.noNul, passable.nonempty, fits]
  rfl

theorem passable_of_resolve (resolved : world.resolve goal path = .ok found) :
    Passable path := by
  cases noNul : path.toList.contains '\x00' with
  | true =>
      simp only [resolve, walkPath, noNul] at resolved
      cases resolved
  | false =>
      cases long : decide (path.utf8ByteSize ≥ pathLimit) with
      | true =>
          simp only [resolve, noNul, long] at resolved
          cases resolved
      | false =>
          cases nonempty : path.isEmpty with
          | true =>
              simp only [resolve, walkPath, noNul, long, nonempty] at resolved
              cases resolved
          | false => exact ⟨noNul, nonempty, by simpa using long⟩

theorem resolve_eq_ok_iff :
    world.resolve goal path = .ok found ↔
      Passable path ∧
      Walks world.files.root goal (fuelFor path) linkLimit (world.startOf path)
        (Path.steps path.toList) found := by
  constructor
  · intro resolved
    have passable := passable_of_resolve resolved
    rw [resolve_of_passable passable] at resolved
    refine ⟨passable, walks_of_walk ?_⟩
    cases walked : walk world.files.root goal (fuelFor path) linkLimit
      (world.startOf path)
        (Path.steps path.toList) with
    | ok other =>
        rw [walked] at resolved
        cases resolved
        rfl
    | error errno =>
        rw [walked] at resolved
        cases resolved
  · rintro ⟨passable, walks⟩
    rw [resolve_of_passable passable, walk_of_walks walks]
    rfl

theorem resolve_of_lookup (looked : world.lookup path = .ok found) :
    world.resolve .target path = .ok found := by
  unfold World.lookup at looked
  cases resolved : world.resolve .target path with
  | error error =>
      rw [resolved] at looked
      cases looked
  | ok other =>
      rw [resolved] at looked
      cases other with
      | vacant location => cases looked
      | orphan place =>
          cases looked
          rfl
      | node location node =>
          cases looked
          rfl

end JobShell.World
