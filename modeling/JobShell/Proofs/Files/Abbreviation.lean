import JobShell.Files.Search
import JobShell.Proofs.Files.Joining

/-!
# Paths below the home directory

A path is compared with the home directory component by component, and what is
left of it is then cut out of its text.  The text that comes out denotes the
path all the same: with the home directory in place of its tilde it has the
components that the path has.
-/

namespace JobShell

namespace Path

/-- The components that the pieces of a text stand for, wherever in a path the
text is. -/
def inside (text : List Char) : List PathComponent :=
  (names.pieces text []).filterMap fun piece => pieceComponent? piece.toList

theorem inside_append_slash (front rest : List Char) :
    inside (front ++ '/' :: rest) = inside front ++ inside rest := by
  rw [inside, pieces_append_slash, List.filterMap_append]
  rfl

theorem inside_slash (rest : List Char) : inside ('/' :: rest) = inside rest :=
  inside_append_slash [] rest

theorem inside_dot_slash (rest : List Char) :
    inside ('.' :: '/' :: rest) = inside rest :=
  inside_append_slash ['.'] rest

/-- The first piece comes before what is behind the slash at its end. -/
theorem inside_eq (text : List Char) :
    inside text =
      (pieceComponent? (spanName text).1).toList ++
        inside ((spanName text).2.drop 1) := by
  rw [inside, pieces_eq, List.filterMap_cons]
  cases rest : (spanName text).2 with
  | nil =>
      rw [List.drop_nil, show inside [] = [] from rfl]
      cases piece : pieceComponent? (spanName text).1 <;> simp [piece]
  | cons c later =>
      cases piece : pieceComponent? (spanName text).1 <;> simp [piece, inside]

theorem isAbsolute_iff {path : List Char} :
    isAbsolute path = true ↔ ∃ body, path = '/' :: body := by
  cases path with
  | nil => simp [isAbsolute]
  | cons c body => simp [isAbsolute]

theorem components_slash (body : List Char) :
    components ('/' :: body) = .root :: inside body := by
  rw [inside, ← bodyComponents_eq (Nat.lt_succ_self _)]
  rfl

/-- More path behind an absolute one adds its components and no others. -/
theorem components_append_slash {front : List Char}
    (absolute : isAbsolute front = true) (rest : List Char) :
    components (front ++ '/' :: rest) = components front ++ inside rest := by
  obtain ⟨body, rfl⟩ := isAbsolute_iff.mp absolute
  rw [List.cons_append, components_slash, components_slash, inside_append_slash,
    List.cons_append]

theorem inside_trimLeft (text : List Char) :
    inside (trimLeft text) = inside text := by
  fun_induction trimLeft text with
  | case1 => rfl
  | case2 rest induction => rw [induction, inside_slash]
  | case3 => rfl
  | case4 rest induction => rw [induction, inside_dot_slash]
  | case5 => rfl

theorem inside_trimRightReversed (body : List Char) :
    inside (trimRightReversed body).reverse = inside body.reverse := by
  fun_induction trimRightReversed body with
  | case1 => rfl
  | case2 rest induction =>
      rw [induction, List.reverse_cons, inside_append_slash]
      exact (List.append_nil _).symm
  | case3 => rfl
  | case4 rest induction =>
      rw [induction, List.reverse_cons, List.reverse_cons, List.append_assoc,
        List.singleton_append, inside_append_slash]
      exact (List.append_nil _).symm
  | case5 => rfl

theorem components_slash_trimRight {path : List Char}
    (absolute : isAbsolute path = true) :
    components ('/' :: trimRight path) = components path := by
  obtain ⟨body, rfl⟩ := isAbsolute_iff.mp absolute
  have trimmed : trimRight ('/' :: body) =
      '/' :: (trimRightReversed body.reverse).reverse := rfl
  rw [components_slash, components_slash, trimmed, inside_slash,
    inside_trimRightReversed, List.reverse_reverse]

theorem inside_dropPieces {fuel count : Nat} {body : List Char}
    (enough : body.length ≤ fuel) :
    inside (dropPieces fuel count body) = (inside body).drop count := by
  -- Pieces without a component cost fuel too, so the induction is on the fuel
  -- and not on the components that are still to be dropped.
  induction fuel generalizing count body with
  | zero =>
      rw [List.length_eq_zero_iff.mp (Nat.le_zero.mp enough)]
      exact List.drop_nil.symm
  | succ fuel induction =>
      cases count with
      | zero => rfl
      | succ count =>
          have shorter : ((spanName body).2.drop 1).length ≤ fuel := by
            have sublist : (spanName body).2.length ≤ body.length :=
              (List.dropWhile_sublist _).length_le
            rw [List.length_drop]
            omega
          rw [dropPieces, inside_eq body]
          cases piece : pieceComponent? (spanName body).1 with
          | none => simpa [piece] using induction shorter
          | some component => simpa [piece] using induction shorter

theorem stripBase?_eq_none_iff {path base : List Char} :
    stripBase? path base = none ↔ ¬components base <+: components path := by
  rw [← List.isPrefixOf_iff_prefix, stripBase?]
  cases found : (components base).isPrefixOf (components path) with
  | false => simp
  | true => cases shape : components base <;> simp

section StripBase

variable {path base rest : List Char}

theorem components_prefix_of_stripBase?
    (left : stripBase? path base = some rest) :
    components base <+: components path := by
  by_contra other
  rw [stripBase?_eq_none_iff.mpr other] at left
  cases left

/-- An absolute path begins with absolute paths and with the path that is
empty. -/
theorem eq_nil_or_isAbsolute_of_prefix (absolute : isAbsolute path = true)
    (begins : components base <+: components path) : base = [] ∨
    isAbsolute base = true := by
  obtain ⟨body, rfl⟩ := isAbsolute_iff.mp absolute
  rw [components_slash] at begins
  cases shape : components base with
  | nil => exact .inl (eq_nil_of_components_eq_nil shape)
  | cons first others =>
      rw [shape] at begins
      obtain ⟨rfl, _⟩ := List.cons_prefix_cons.mp begins
      exact .inr
        (isAbsolute_of_root_mem_components (shape ▸ List.mem_cons_self))

/-- Behind the components of an absolute base are those of what is left. -/
theorem components_eq_of_stripBase? (absolute : isAbsolute path = true)
    (absoluteBase : isAbsolute base = true)
    (left : stripBase? path base = some rest) :
    components path = components base ++ inside rest := by
  have begins := components_prefix_of_stripBase? left
  obtain ⟨body, rfl⟩ := isAbsolute_iff.mp absolute
  obtain ⟨front, rfl⟩ := isAbsolute_iff.mp absoluteBase
  have cut : rest =
      (trimRightReversed
        (trimLeft
          (dropPieces (body.length + 1)
            (inside front).length body)).reverse).reverse := by
    rw [stripBase?, if_pos (List.isPrefixOf_iff_prefix.mpr begins),
      components_slash] at left
    exact (Option.some.inj left).symm
  rw [components_slash, components_slash] at begins ⊢
  obtain ⟨behind, split⟩ := (List.cons_prefix_cons.mp begins).2
  have restInside : inside rest = behind := by
    rw [cut, inside_trimRightReversed, List.reverse_reverse, inside_trimLeft,
      inside_dropPieces (Nat.le_succ _), ← split, List.drop_left]
  rw [restInside, ← split, List.cons_append]

end StripBase

end Path

namespace World

open JobShell.Path

/-- A text with the value of a variable, if it has one, in place of a tilde at
the start. -/
def spelledOut (value? : Option String) (text : List Char) : List Char :=
  match value?, text with
  | some value, '~' :: rest => value.toList ++ rest
  | _, _ => text

theorem spelledOut_of_isAbsolute (value? : Option String) {text : List Char}
    (absolute : isAbsolute text = true) : spelledOut value? text = text := by
  obtain ⟨body, rfl⟩ := isAbsolute_iff.mp absolute
  cases value? <;> rfl

section Tildify

variable {world : World} {path : String} {rest : List Char}

theorem tildify_of_root
    (root : components world.homeDirectory.toList = [.root]) :
    world.tildify path = path := by
  cases left : stripBase? path.toList world.homeDirectory.toList with
  | none => simp [tildify, left]
  | some rest => simp [tildify, left, root]

theorem tildify_of_elsewhere
    (elsewhere : stripBase? path.toList world.homeDirectory.toList = none) :
    world.tildify path = path := by
  simp [tildify, elsewhere]

/-- What a path below the home directory is written as. -/
theorem toList_tildify_of_below
    (noRoot : components world.homeDirectory.toList ≠ [.root])
    (left : stripBase? path.toList world.homeDirectory.toList = some rest) :
    (world.tildify path).toList = '~' :: if rest = [] then []
      else '/' :: rest := by
  simp only [tildify, left, if_neg noRoot]
  cases rest with
  | nil => rfl
  | cons c rest => simp

theorem exists_home_of_ne_root
    (noRoot : components world.homeDirectory.toList ≠ [.root]) :
    ∃ home, world.environment.get? "HOME" = some home ∧
      world.homeDirectory = home := by
  cases value : world.environment.get? "HOME" with
  | none =>
      refine absurd ?_ noRoot
      rw [homeDirectory, value]
      rfl
  | some home =>
      exact ⟨home, rfl, by rw [homeDirectory, value, Option.getD_some]⟩

theorem components_spelledOut_tildify
    (absolute : isAbsolute path.toList = true) :
    components
      (spelledOut (world.environment.get? "HOME") (world.tildify path).toList) =
      components path.toList := by
  by_cases root : components world.homeDirectory.toList = [.root]
  · rw [tildify_of_root root, spelledOut_of_isAbsolute _ absolute]
  cases left : stripBase? path.toList world.homeDirectory.toList with
  | none => rw [tildify_of_elsewhere left, spelledOut_of_isAbsolute _ absolute]
  | some rest =>
      obtain ⟨home, value, same⟩ := exists_home_of_ne_root root
      rw [toList_tildify_of_below root left, value, spelledOut]
      rw [same] at left
      rcases eq_nil_or_isAbsolute_of_prefix absolute
        (components_prefix_of_stripBase? left) with
        empty | absoluteHome
      · -- The path keeps its slash, and so there are two of them.
        rw [empty] at left ⊢
        obtain rfl : trimRight path.toList = rest := Option.some.inj left
        obtain ⟨body, shape⟩ := isAbsolute_iff.mp absolute
        rw [if_neg (by rw [shape]; exact List.cons_ne_nil _ _), List.nil_append]
        exact components_slash_trimRight absolute
      · rw [components_eq_of_stripBase? absolute absoluteHome left]
        by_cases nothing : rest = []
        · rw [if_pos nothing, nothing, List.append_nil]
          exact (List.append_nil _).symm
        · rw [if_neg nothing, components_append_slash absoluteHome]

theorem head?_tildify_eq_tilde_iff (absolute : isAbsolute path.toList = true)
    (noRoot : components world.homeDirectory.toList ≠ [.root]) :
    (world.tildify path).toList.head? = some '~' ↔
      components world.homeDirectory.toList <+: components path.toList := by
  cases left : stripBase? path.toList world.homeDirectory.toList with
  | none =>
      obtain ⟨body, shape⟩ := isAbsolute_iff.mp absolute
      rw [tildify_of_elsewhere left, shape]
      simpa using shape ▸ stripBase?_eq_none_iff.mp left
  | some rest =>
      rw [toList_tildify_of_below noRoot left]
      simpa using components_prefix_of_stripBase? left

end Tildify

/-- An absolute path keeps its components when it is abbreviated, whatever
stands in `HOME`.  Where that is an absolute path other than the root, what
begins with its components is abbreviated, and nothing else is. -/
theorem tildify_keeps_components (world : World) (path : String)
    (absolute : isAbsolute path.toList = true) :
    components
      (spelledOut (world.environment.get? "HOME") (world.tildify path).toList) =
        components path.toList ∧
      ∀ home, world.environment.get? "HOME" = some home →
        isAbsolute home.toList = true →
        components home.toList ≠ [.root] →
        ((world.tildify path).toList.head? = some '~' ↔
          components home.toList <+: components path.toList) := by
  refine ⟨components_spelledOut_tildify absolute, fun home value _ noRoot => ?_⟩
  have same : world.homeDirectory = home := by
    rw [homeDirectory, value, Option.getD_some]
  rw [← same] at noRoot ⊢
  exact head?_tildify_eq_tilde_iff absolute noRoot

/-- A world that holds nothing but a home directory's name. -/
def homed (home : String) : World :=
  { files := { root := .directory [], contents := #[] },
    place := .root,
    environment := [("HOME", home)],
    accountHome := "/" }

/-- Slashes and dots in the name of the home directory and in the path make no
difference, and `/home/ab` is not below `/home/a`. -/
theorem tildify_keeps_components_untidyHome :
    (isAbsolute "/home/a//b/./c/".toList = true ∧
      isAbsolute "/home/ab".toList = true) ∧
    (components (spelledOut (some "/home//a/./")
        ((homed "/home//a/./").tildify "/home/a//b/./c/").toList) =
      components "/home/a//b/./c/".toList ∧
      ((homed "/home//a/./").tildify "/home/a//b/./c/").toList.head? =
        some '~') ∧
    ((homed "/home//a/./").tildify "/home/ab").toList.head? ≠ some '~' := by
  have below :=
    tildify_keeps_components (homed "/home//a/./") "/home/a//b/./c/" rfl
  have beside := tildify_keeps_components (homed "/home//a/./") "/home/ab" rfl
  have noRoot : components "/home//a/./".toList ≠ [.root] := by decide
  refine ⟨⟨rfl, rfl⟩, ⟨below.1, ?_⟩, ?_⟩
  · exact (below.2 _ rfl rfl noRoot).mpr (by decide)
  · rw [ne_eq, beside.2 _ rfl rfl noRoot]
    decide

end World

end JobShell
