import JobShell.Text.Blank
import JobShell.Text.Lines

/-!
# Texts as lines and what is left behind them

Every text is a number of lines, each with the line feed that ends it, and a
rest without a line feed.  Reading takes a carriage return off the end of a
line, but not off the end of the rest.
-/

namespace JobShell.Text

/-- Lines as they stand in a text. -/
def joinLines (lines : List (List Char)) : List Char :=
  lines.flatMap fun line => line ++ ['\n']

@[simp] theorem joinLines_nil : joinLines [] = [] := rfl

@[simp] theorem joinLines_cons (line : List Char) (lines : List (List Char)) :
    joinLines (line :: lines) = line ++ '\n' :: joinLines lines := by
  simp [joinLines]

@[simp] theorem joinLines_append (lines more : List (List Char)) :
    joinLines (lines ++ more) = joinLines lines ++ joinLines more :=
  List.flatMap_append

/-- A line without one carriage return at its end. -/
def stripReturn (line : List Char) : List Char :=
  if line.getLast? = some '\r' then line.dropLast else line

theorem stripReturn_cons_cons (c d : Char) (line : List Char) :
    stripReturn (c :: d :: line) = c :: stripReturn (d :: line) := by
  unfold stripReturn
  rw [List.getLast?_cons_cons, List.dropLast_cons_cons]
  split <;> rfl

theorem stripReturn_eq_self_iff {line : List Char} :
    stripReturn line = line ↔ line.getLast? ≠ some '\r' := by
  unfold stripReturn
  split
  · next returned =>
      have shorter : line.dropLast ≠ line := by
        intro same
        have lengths := congrArg List.length same
        rw [List.length_dropLast] at lengths
        cases line with
        | nil => cases returned
        | cons c line => simp at lengths
      simp [returned, shorter]
  · next kept => simp [kept]

theorem splitReturnLines_cons {c : Char} {text : List Char}
    (ordinary : c ≠ '\n') (noEnd : c = '\r' → text.head? ≠ some '\n') :
    splitReturnLines (c :: text) =
      match splitReturnLines text with
      | line :: lines => (c :: line) :: lines
      | [] => [[c]] := by
  rw [splitReturnLines.eq_def]
  split
  · next same => cases same
  · next rest same =>
      cases same
      exact absurd rfl (noEnd rfl)
  · next rest same =>
      cases same
      exact absurd rfl ordinary
  · next d rest _ _ same =>
      cases same
      rfl

theorem splitReturnLines_line {line : List Char} (single : '\n' ∉ line)
    (rest : List Char) :
    splitReturnLines (line ++ '\n' :: rest) =
      stripReturn line :: splitReturnLines rest := by
  induction line with
  | nil => simp [splitReturnLines, stripReturn]
  | cons c line induction =>
      rw [List.mem_cons, not_or] at single
      have ordinary : c ≠ '\n' := fun same => single.1 same.symm
      cases line with
      | nil =>
          by_cases returned : c = '\r'
          · subst returned
            simp [splitReturnLines, stripReturn]
          · have kept : stripReturn [c] = [c] := by simp [stripReturn, returned]
            rw [List.singleton_append,
              splitReturnLines_cons ordinary
                fun same => absurd same returned, kept]
            simp [splitReturnLines]
      | cons d line =>
          have noEnd : d ≠ '\n' := by
            rintro rfl
            exact single.2 List.mem_cons_self
          rw [List.cons_append,
            splitReturnLines_cons ordinary (by simp [noEnd]),
            induction single.2, stripReturn_cons_cons]

theorem splitReturnLines_rest {rest : List Char} (single : '\n' ∉ rest) :
    splitReturnLines rest = if rest = [] then [] else [rest] := by
  induction rest with
  | nil => rfl
  | cons c rest induction =>
      rw [List.mem_cons, not_or] at single
      have ordinary : c ≠ '\n' := fun same => single.1 same.symm
      have noEnd : rest.head? ≠ some '\n' :=
        fun first => single.2 (List.mem_of_head? first)
      rw [splitReturnLines_cons ordinary fun _ => noEnd, induction single.2]
      cases rest <;> simp

theorem splitReturnLines_joinLines {lines : List (List Char)}
    (single : ∀ line ∈ lines, '\n' ∉ line) (rest : List Char) :
    splitReturnLines (joinLines lines ++ rest) =
      lines.map stripReturn ++ splitReturnLines rest := by
  induction lines with
  | nil => rfl
  | cons line lines induction =>
      rw [joinLines_cons, List.append_assoc, List.cons_append,
        splitReturnLines_line (single line List.mem_cons_self),
        induction fun other later =>
          single other (List.mem_cons_of_mem _ later)]
      rfl

/-- A text is made of whole lines and a rest. -/
theorem exists_joinLines_append (text : List Char) :
    ∃ lines rest, text = joinLines lines ++ rest ∧
      (∀ line ∈ lines, '\n' ∉ line) ∧ '\n' ∉ rest := by
  induction text with
  | nil => exact ⟨[], [], rfl, nofun, List.not_mem_nil⟩
  | cons c text induction =>
      obtain ⟨lines, rest, rfl, single, singleRest⟩ := induction
      by_cases feed : c = '\n'
      · refine ⟨[] :: lines, rest, by simp [feed], ?_, singleRest⟩
        intro line member
        rcases List.mem_cons.mp member with rfl | later
        · exact List.not_mem_nil
        · exact single line later
      · have ordinary : '\n' ≠ c := fun same => feed same.symm
        cases lines with
        | nil =>
            exact ⟨[], c :: rest, rfl, nofun, by simp [ordinary, singleRest]⟩
        | cons first lines =>
            refine ⟨(c :: first) :: lines, rest, by simp, ?_, singleRest⟩
            intro line member
            rcases List.mem_cons.mp member with rfl | later
            · simp [ordinary, single first List.mem_cons_self]
            · exact single line (List.mem_cons_of_mem _ later)

/-- The lines of a text that are not blank. -/
def solidLines (text : List Char) : List (List Char) :=
  (splitReturnLines text).filter fun line => !line.all isBlank

theorem all_isBlank_stripReturn (line : List Char) :
    (stripReturn line).all isBlank = line.all isBlank := by
  unfold stripReturn
  split
  · next returned =>
      have blank : isBlank '\r' = true := by decide
      obtain ⟨front, rfl⟩ := List.getLast?_eq_some_iff.mp returned
      simp [blank]
  · rfl

theorem eq_of_cons_eq_append {c d : Char} {front : List Char}
    (same : c :: front = front ++ [d]) :
    ∀ other ∈ front, other = d := by
  induction front generalizing c with
  | nil => nofun
  | cons first front induction =>
      obtain ⟨_, shifted⟩ := List.cons.inj same
      have later := induction shifted
      intro other member
      rcases List.mem_cons.mp member with rfl | member
      · cases front with
        | nil => exact (List.cons.inj shifted).1
        | cons second front =>
            exact (List.cons.inj shifted).1.trans
              (later second List.mem_cons_self)
      · exact later other member

/-- Taking a carriage return off shows, unless what stands in front makes up for
it; then there is nothing but carriage returns. -/
theorem stripReturn_append_eq_iff {rest line : List Char}
    (solid : line.all isBlank = false) :
    stripReturn (rest ++ line) = line ↔
      rest = [] ∧ line.getLast? ≠ some '\r' := by
  have ends : (rest ++ line).getLast? = line.getLast? := by
    cases line with
    | nil => cases solid
    | cons c line =>
        rw [List.getLast?_append, List.getLast?_cons, Option.some_or]
  constructor
  · intro same
    by_cases returned : line.getLast? = some '\r'
    · obtain ⟨front, rfl⟩ := List.getLast?_eq_some_iff.mp returned
      rw [stripReturn, ends, if_pos returned, ← List.append_assoc,
        List.dropLast_concat] at same
      have lengths := congrArg List.length same
      simp only [List.length_append, List.length_singleton] at lengths
      obtain ⟨c, rfl⟩ :=
        List.length_eq_one_iff.mp (show rest.length = 1 by omega)
      have returns := eq_of_cons_eq_append same
      have blank : (front ++ ['\r']).all isBlank = true := by
        rw [List.all_eq_true]
        intro other member
        rcases List.mem_append.mp member with inFront | last
        · exact returns other inFront ▸ rfl
        · exact List.mem_singleton.mp last ▸ rfl
      rw [blank] at solid
      cases solid
    · rw [stripReturn, ends, if_neg returned] at same
      exact ⟨List.append_left_eq_self.mp same, returned⟩
  · rintro ⟨rfl, kept⟩
    exact stripReturn_eq_self_iff.mpr kept

theorem map_stripReturn_eq_self_iff {lines : List (List Char)} :
    lines.map stripReturn = lines ↔
      ∀ line ∈ lines, line.getLast? ≠ some '\r' := by
  have all : lines.map stripReturn = lines.map id ↔
      ∀ line ∈ lines, stripReturn line = id line :=
    List.map_inj_left
  rw [List.map_id] at all
  rw [all]
  exact forall₂_congr fun line _ => stripReturn_eq_self_iff

/-- A text ends where a line ends when nothing is left behind its lines. -/
theorem ends_iff_rest_eq_nil {lines : List (List Char)} {rest : List Char}
    (single : '\n' ∉ rest) :
    (joinLines lines ++ rest = [] ∨
      (joinLines lines ++ rest).getLast? = some '\n') ↔
      rest = [] := by
  constructor
  · rintro (empty | feed)
    · exact (List.append_eq_nil_iff.mp empty).2
    · cases rest with
      | nil => rfl
      | cons c rest =>
          rw [List.getLast?_append, List.getLast?_cons,
            Option.some_or, ← List.getLast?_cons] at feed
          exact absurd (List.mem_of_getLast? feed) single
  · rintro rfl
    rcases List.eq_nil_or_concat lines with rfl | ⟨front, last, rfl⟩
    · exact .inl rfl
    · right
      simp [joinLines]

theorem solidLines_joinLines_append {lines : List (List Char)}
    {rest : List Char} (single : ∀ line ∈ lines, '\n' ∉ line)
    (singleRest : '\n' ∉ rest) :
    solidLines (joinLines lines ++ rest) =
      ((lines.map stripReturn).filter fun line => !line.all isBlank) ++
        if rest.all isBlank then [] else [rest] := by
  rw [solidLines, splitReturnLines_joinLines single,
    splitReturnLines_rest singleRest, List.filter_append]
  cases rest with
  | nil => rfl
  | cons c rest => cases blank : (c :: rest).all isBlank <;> simp [blank]

theorem filter_solid_map_stripReturn {lines : List (List Char)}
    (solid : ∀ line ∈ lines, line.all isBlank = false) :
    ((lines.map stripReturn).filter fun line => !line.all isBlank) =
      lines.map stripReturn := by
  apply List.filter_eq_self.mpr
  intro line member
  obtain ⟨old, listed, rfl⟩ := List.mem_map.mp member
  simp [all_isBlank_stripReturn, solid old listed]

/-- Behind whole lines and a rest, new lines are read back as they are just when
there is no rest and none of them ends in a carriage return.  Otherwise the
first of them goes on where the rest ends, or loses its own end. -/
theorem solidLines_append_iff {text : List Char} {added : List (List Char)}
    (single : ∀ line ∈ added, '\n' ∉ line)
    (solid : ∀ line ∈ added, line.all isBlank = false) :
    solidLines (text ++ joinLines added) = solidLines text ++ added ↔
      added = [] ∨ ((text = [] ∨ text.getLast? = some '\n') ∧
        ∀ line ∈ added, line.getLast? ≠ some '\r') := by
  obtain ⟨lines, rest, rfl, singleLines, singleRest⟩ :=
    exists_joinLines_append text
  rw [ends_iff_rest_eq_nil singleRest]
  cases added with
  | nil => simp
  | cons first others =>
      -- the first of the new lines goes on where the text has ended
      have singleAll : ∀ line ∈ lines ++ (rest ++ first) :: others,
          '\n' ∉ line := by
        intro line member
        rcases List.mem_append.mp member with before | member
        · exact singleLines line before
        · rcases List.mem_cons.mp member with rfl | later
          · rw [List.mem_append, not_or]
            exact ⟨singleRest, single first List.mem_cons_self⟩
          · exact single line (List.mem_cons_of_mem _ later)
      have solidFirst := solid first List.mem_cons_self
      have solidAll : ∀ line ∈ (rest ++ first) :: others,
          line.all isBlank = false := by
        intro line member
        rcases List.mem_cons.mp member with rfl | later
        · simp [List.all_append, solidFirst]
        · exact solid line (List.mem_cons_of_mem _ later)
      have together : joinLines lines ++ rest ++ joinLines (first :: others) =
          joinLines (lines ++ (rest ++ first) :: others) ++ [] := by
        simp
      rw [together, solidLines_joinLines_append singleAll List.not_mem_nil,
        solidLines_joinLines_append singleLines singleRest, List.map_append,
        List.filter_append, filter_solid_map_stripReturn solidAll,
        if_pos (show [].all isBlank = true from rfl), List.append_nil,
        List.append_assoc, List.append_cancel_left_eq]
      by_cases blank : rest.all isBlank = true
      · rw [if_pos blank, List.nil_append, List.map_cons, List.cons.injEq,
          stripReturn_append_eq_iff solidFirst, map_stripReturn_eq_self_iff]
        simp [and_assoc]
      · rw [if_neg blank]
        constructor
        · intro same
          have lengths := congrArg List.length same
          simp at lengths
        · rintro (impossible | ⟨rfl, _⟩)
          · cases impossible
          · exact absurd rfl blank

end JobShell.Text
