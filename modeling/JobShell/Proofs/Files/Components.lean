import Mathlib.Data.List.Basic
import JobShell.Files.World

/-!
# The names in a path

What a walk reads of an absolute path are the names between its slashes, and its
components say the same but for the names that are `.`.
-/

namespace JobShell

/-- A name that a file may have.  The other two names without a slash stand for
a directory itself and for the one above it. -/
structure IsFileName (name : String) : Prop where
  nonempty : name ≠ ""
  noSlash : '/' ∉ name.toList
  notHere : name ≠ "."
  notAbove : name ≠ ".."

namespace Path

theorem pieces_append {name : List Char} (noSlash : '/' ∉ name)
    (rest begun : List Char) :
    names.pieces (name ++ rest) begun =
      names.pieces rest (name.reverse ++ begun) := by
  induction name generalizing begun with
  | nil => rfl
  | cons c name induction =>
      rw [List.mem_cons, not_or] at noSlash
      rw [List.cons_append, names.pieces,
        if_neg fun same => noSlash.1 same.symm, induction noSlash.2]
      simp

/-- The first piece ends at the first slash. -/
theorem pieces_eq (path begun : List Char) :
    names.pieces path begun =
      String.ofList (begun.reverse ++ (spanName path).1) ::
        match (spanName path).2 with
        | [] => []
        | _ :: rest => names.pieces rest [] := by
  have noSlash : '/' ∉ path.takeWhile (· != '/') := by
    intro member
    simpa using List.all_eq_true.mp List.all_takeWhile _ member
  have split : path.takeWhile (· != '/') ++ path.dropWhile (· != '/') = path :=
    List.takeWhile_append_dropWhile
  rw [← split, pieces_append noSlash, split, spanName]
  cases rest : path.dropWhile (· != '/') with
  | nil => simp [names.pieces]
  | cons c later =>
      have stopped := List.head?_dropWhile_not (· != '/') path
      have slash : c = '/' := by simpa [rest] using stopped
      simp [names.pieces, slash]

theorem noSlash_of_mem_pieces {path begun : List Char} (noSlash : '/' ∉ begun) :
    ∀ name ∈ names.pieces path begun, '/' ∉ name.toList := by
  induction path generalizing begun with
  | nil =>
      intro name member
      rw [List.mem_singleton.mp member]
      simpa using noSlash
  | cons c rest induction =>
      unfold names.pieces
      split
      · intro name member
        rcases List.mem_cons.mp member with rfl | later
        · simpa using noSlash
        · exact induction List.not_mem_nil name later
      · next ordinary =>
          apply induction
          rw [List.mem_cons, not_or]
          exact ⟨fun same => ordinary same.symm, noSlash⟩

/-- The pieces are made of the characters of the path. -/
theorem exists_mem_pieces_iff {c : Char} (ordinary : c ≠ '/')
    (path begun : List Char) :
    (∃ name ∈ names.pieces path begun, c ∈ name.toList) ↔
      c ∈ begun ∨ c ∈ path := by
  induction path generalizing begun with
  | nil => simp [names.pieces]
  | cons other rest induction =>
      unfold names.pieces
      split
      · next slash => simp [induction, slash, ordinary]
      · simp [induction, or_assoc, or_left_comm]

/-- A step by name is neither empty nor does it lead through several
directories. -/
theorem plain_of_name_mem_steps {path : List Char} {name : String}
    (member : PathStep.name name ∈ steps path) :
    name ≠ "" ∧ '/' ∉ name.toList := by
  have named : name ∈ names path := by
    rcases List.mem_append.mp member with inNames | slash
    · obtain ⟨other, listed, same⟩ := List.mem_map.mp inNames
      cases same
      exact listed
    · split at slash
      · simp at slash
      · cases slash
  obtain ⟨piece, nonempty⟩ := List.mem_filter.mp named
  exact ⟨by simpa using nonempty,
    noSlash_of_mem_pieces List.not_mem_nil name piece⟩

theorem bodyComponents_eq {fuel : Nat} {body : List Char}
    (enough : body.length < fuel) :
    bodyComponents fuel body =
      (names.pieces body []).filterMap fun piece =>
        pieceComponent? piece.toList := by
  induction fuel generalizing body with
  | zero => exact absurd enough (Nat.not_lt_zero _)
  | succ fuel induction =>
      have shorter : (spanName body).2.length ≤ body.length :=
        (List.dropWhile_sublist _).length_le
      rw [bodyComponents, pieces_eq, List.filterMap_cons]
      cases rest : (spanName body).2 with
      | nil =>
          cases piece : pieceComponent? (spanName body).1 <;> simp [piece, rest]
      | cons c later =>
          rw [rest, List.length_cons] at shorter
          have others := @induction later (by omega)
          cases piece : pieceComponent? (spanName body).1 <;>
            simp [piece, rest, others]

theorem components_of_isAbsolute {path : List Char}
    (absolute : isAbsolute path = true) :
    components path =
      .root :: (names path).filterMap fun piece =>
        pieceComponent? piece.toList := by
  cases path with
  | nil => cases absolute
  | cons c body =>
      have slash : c = '/' := by simpa [isAbsolute] using absolute
      subst slash
      have skip (name : String) :
          (if (!name.isEmpty) = true then pieceComponent? name.toList
            else none) =
            pieceComponent? name.toList := by
        split
        · rfl
        · next empty =>
            have same : name = "" := by simpa using empty
            rw [same]
            rfl
      simp only [components, headLength, List.head?_cons, List.drop_one,
        List.tail_cons, names, List.filterMap_filter, skip]
      rw [bodyComponents_eq (Nat.lt_succ_self _)]
      rfl

theorem isAbsolute_of_root_mem_components {path : List Char}
    (member : PathComponent.root ∈ components path) :
    isAbsolute path = true := by
  rcases List.mem_append.mp member with front | body
  · split at front
    · next first => simp [isAbsolute, first]
    · split at front <;> simp at front
    · cases front
  · rw [bodyComponents_eq (Nat.lt_succ_self _)] at body
    obtain ⟨piece, _, component⟩ := List.mem_filterMap.mp body
    unfold pieceComponent? at component
    split at component
    · cases component
    · split at component <;> cases component

theorem pieceComponent?_eq_none_iff {piece : List Char} :
    pieceComponent? piece = none ↔ piece = [] ∨ piece = ['.'] := by
  unfold pieceComponent?
  split
  · next idle => simpa using idle
  · next idle =>
      have other : ¬(piece = [] ∨ piece = ['.']) := by simpa using idle
      split <;> simpa using other

/-- Only the empty path has no components. -/
theorem eq_nil_of_components_eq_nil {path : List Char}
    (nothing : components path = []) :
    path = [] := by
  obtain ⟨front, body⟩ := List.append_eq_nil_iff.mp nothing
  unfold headLength at front body
  split at body
  · cases front
  · cases front
  · cases front
  · next noSlash noDot noDotSlash =>
      rw [List.drop_zero, bodyComponents_eq (Nat.lt_succ_self _), pieces_eq,
        List.filterMap_cons] at body
      have unnamed : pieceComponent? (path.takeWhile (· != '/')) = none := by
        cases piece : pieceComponent? (path.takeWhile (· != '/')) with
        | none => rfl
        | some component => simp [spanName, piece] at body
      cases path with
      | nil => rfl
      | cons c rest =>
          have notSlash : c ≠ '/' := by
            rintro rfl
            exact noSlash rest rfl
          rw [List.takeWhile_cons_of_pos (by simpa using notSlash),
            pieceComponent?_eq_none_iff] at unnamed
          obtain ⟨rfl, short⟩ : c = '.' ∧ rest.takeWhile (· != '/') = [] := by
            simpa using unnamed
          cases rest with
          | nil => exact absurd rfl noDot
          | cons next rest =>
              have slash : next = '/' := by
                by_contra other
                rw [List.takeWhile_cons_of_pos (by simpa using other)] at short
                cases short
              exact absurd (by rw [slash]) (noDotSlash rest)

/-- The names that lead somewhere else. -/
def plainNames (path : List Char) : List String :=
  (names path).filter (· != ".")

/-- How a component is spelled. -/
def componentText : PathComponent → String
  | .root => "/"
  | .current => "."
  | .parent => ".."
  | .name text => String.ofList text

theorem plainNames_eq {path : List Char} (absolute : isAbsolute path = true) :
    plainNames path = (components path).tail.map componentText := by
  have spelled : ∀ name ∈ names path,
      (pieceComponent? name.toList).map componentText =
      if name != "." then some name else none := by
    intro name member
    have nonempty : name.toList ≠ [] := by
      simpa [names] using (List.mem_filter.mp member).2
    unfold pieceComponent?
    by_cases here : name = "."
    · simp [here]
    · have notHere : name.toList ≠ ['.'] :=
        fun same => here (String.toList_inj.mp same)
      by_cases above : name = ".."
      · simp [above, componentText]
      · have notAbove : name.toList ≠ ['.', '.'] :=
          fun same => above (String.toList_inj.mp same)
        simp [nonempty, notHere, notAbove, here, componentText]
  rw [components_of_isAbsolute absolute, List.tail_cons, List.map_filterMap,
    List.filterMap_congr spelled, plainNames, ← List.filterMap_eq_filter]
  rfl

theorem mem_iff_exists_mem_plainNames {c : Char} (ordinary : c ≠ '/')
    (notDot : c ≠ '.') (path : List Char) : c ∈ path ↔
      ∃ name ∈ plainNames path, c ∈ name.toList := by
  have pieces := exists_mem_pieces_iff ordinary path []
  rw [or_iff_right List.not_mem_nil] at pieces
  rw [← pieces]
  constructor
  · rintro ⟨name, listed, member⟩
    refine ⟨name, List.mem_filter.mpr ⟨List.mem_filter.mpr ⟨listed, ?_⟩, ?_⟩,
      member⟩
    · cases empty : name.isEmpty with
      | false => rfl
      | true =>
          rw [String.isEmpty_iff.mp empty] at member
          cases member
    · rw [bne_iff_ne]
      rintro rfl
      exact notDot (List.mem_singleton.mp member)
  · rintro ⟨name, listed, member⟩
    exact ⟨name, (List.mem_filter.mp (List.mem_filter.mp listed).1).1, member⟩

end Path

namespace World

theorem isAbsolute_pathOf (location : List String) :
    Path.isAbsolute (pathOf location).toList = true := by
  cases location with
  | nil => rfl
  | cons name location => simp [pathOf, Path.isAbsolute]

theorem names_pathOf {location : List String}
    (proper : ∀ name ∈ location, IsFileName name) :
    Path.names (pathOf location).toList = location := by
  have pieces (location : List String)
      (proper : ∀ name ∈ location, IsFileName name) (begun : List Char) :
      Path.names.pieces
        (location.flatMap fun name => '/' :: name.toList) begun =
        String.ofList begun.reverse :: location := by
    induction location generalizing begun with
    | nil => rfl
    | cons name location induction =>
        have first := proper name List.mem_cons_self
        have later := induction fun other member =>
          proper other (List.mem_cons_of_mem _ member)
        rw [List.flatMap_cons, List.cons_append, Path.names.pieces, if_pos rfl,
          Path.pieces_append first.noSlash, later]
        simp
  have solid : location.filter (fun name => !name.isEmpty) = location := by
    rw [List.filter_eq_self]
    intro name member
    simpa using (proper name member).nonempty
  cases location with
  | nil => decide
  | cons name location =>
      have text : (pathOf (name :: location)).toList =
          (name :: location).flatMap fun other => '/' :: other.toList := by
        simp [pathOf, List.flatMap_map]
      rw [Path.names, text, pieces _ proper,
        List.filter_cons_of_neg (by simp), solid]

/-- A place is known by the components of its path. -/
theorem eq_of_components_pathOf_eq {location other : List String}
    (proper : ∀ name ∈ location, IsFileName name)
    (properOther : ∀ name ∈ other, IsFileName name)
    (same : Path.components (pathOf location).toList =
      Path.components (pathOf other).toList) :
    location = other := by
  have plain {location : List String}
      (proper : ∀ name ∈ location, IsFileName name) :
      (Path.components (pathOf location).toList).tail.map Path.componentText =
        location := by
    rw [← Path.plainNames_eq (isAbsolute_pathOf location), Path.plainNames,
      names_pathOf proper, List.filter_eq_self]
    intro name member
    simpa using (proper name member).notHere
  rw [← plain proper, same, plain properOther]

end World

end JobShell
