/-
Module: Lexical.Proofs.Lines
Layer: Proofs
Purpose: Lines as stretches of a text. A text falls into stretches at its separators, and a separator between
  two texts keeps their stretches apart; texts without a separator are given back by the text they are
  joined to. The lines of a text are its stretches, less a carriage return at the end of each but the last.
Imports: Lexical.Proofs.Matching, Lexical.Text.Basic
Main exports: Text.length_splitOn, Text.exists_firstLine, Text.splitOn_append_of_oneLine,
  Text.mem_firstLine_iff, Text.exists_in_front, Text.joined_append, Text.infix_of_mem_splitOn,
  Text.not_mem_of_mem_lines, Text.lines_joined
-/

import Lexical.Proofs.Matching
import Lexical.Text.Basic

namespace Lexical.Text

/-- There is one stretch more than there are separators. -/
theorem length_splitOn (separator : Char) (text : Text) :
    (List.splitOn separator text).length = text.count separator + 1 := by
  induction text with
  | nil => rfl
  | cons c text ih =>
      by_cases same : c = separator
      · simp [same, ih]
      · obtain ⟨stretch, later, parts⟩ := List.exists_cons_of_ne_nil (List.splitOn_ne_nil separator text)
        rw [parts] at ih
        rw [splitOn_cons_of_ne text same, parts, List.count_cons_of_ne same]
        exact ih

/-- The first line of a text, and what stands behind it. -/
theorem exists_firstLine (text : Text) :
    ∃ (line : Text) (later : List Text) (after : Text), List.splitOn '\n' text = line :: later ∧
      text = line ++ after ∧ '\n' ∉ line ∧ after.StopsRun (· ≠ '\n') := by
  induction text with
  | nil => exact ⟨[], [], [], rfl, rfl, List.not_mem_nil, stopsRun_nil _⟩
  | cons c text ih =>
      obtain ⟨line, later, after, parts, split, oneLine, stops⟩ := ih
      by_cases feed : c = '\n'
      · rw [feed, splitOn_cons_self]
        exact ⟨[], _, '\n' :: text, rfl, rfl, List.not_mem_nil, stopsRun_cons.mpr (by decide)⟩
      · refine ⟨c :: line, later, after, ?_, congrArg (c :: ·) split, ?_, stops⟩
        · rw [splitOn_cons_of_ne text feed, parts]
          rfl
        · intro member
          rcases List.mem_cons.mp member with same | inLine
          · exact feed same.symm
          · exact oneLine inLine

/-- In front of a text, a stretch without a line feed belongs to its first line. -/
theorem splitOn_append_of_oneLine {passed text line : Text} {later : List Text}
    (oneLine : '\n' ∉ passed) (parts : List.splitOn '\n' text = line :: later) :
    List.splitOn '\n' (passed ++ text) = (passed ++ line) :: later := by
  induction passed with
  | nil => exact parts
  | cons c passed ih =>
      have other : c ≠ '\n' := by
        rintro rfl
        exact oneLine List.mem_cons_self
      have onward := ih fun member => oneLine (List.mem_cons_of_mem _ member)
      rw [List.cons_append, splitOn_cons_of_ne _ other, onward]
      rfl

/-- A character other than a line feed stands on the first line of a text exactly if no line feed stands
before it. -/
theorem mem_firstLine_iff {text : Text} {c : Char} (other : c ≠ '\n') :
    (∃ line, (List.splitOn '\n' text)[0]? = some line ∧ c ∈ line) ↔
      ∃ before after, text = before ++ c :: after ∧ '\n' ∉ before := by
  constructor
  · rintro ⟨line, isFirst, inLine⟩
    obtain ⟨first, later, after, parts, split, oneLine, -⟩ := exists_firstLine text
    rw [parts] at isFirst
    obtain rfl : first = line := Option.some.inj isFirst
    obtain ⟨before, more, rfl⟩ := List.append_of_mem inLine
    refine ⟨before, more ++ after, ?_, fun member => oneLine (List.mem_append_left _ member)⟩
    rw [split, List.append_assoc, List.cons_append]
  · rintro ⟨before, after, rfl, oneLine⟩
    obtain ⟨line, later, -, parts, -⟩ := exists_firstLine after
    have partsHere : List.splitOn '\n' (c :: after) = (c :: line) :: later := by
      rw [splitOn_cons_of_ne after other, parts]
      rfl
    refine ⟨before ++ c :: line, ?_, List.mem_append_right _ List.mem_cons_self⟩
    rw [splitOn_append_of_oneLine oneLine partsHere]
    rfl

/-- A character behind a stretch without a line feed stands in front of the first line feed. -/
theorem exists_in_front {c : Char} {front second body behind : Text}
    (same : front ++ '\n' :: second = body ++ c :: behind) (oneLine : '\n' ∉ body) (other : c ≠ '\n') :
    ∃ more, front = body ++ c :: more := by
  rcases List.append_eq_append_iff.mp same with ⟨more, rfl, split⟩ | ⟨more, rfl, split⟩
  · cases more with
    | nil => exact absurd (List.cons.inj split).1.symm other
    | cons d more =>
        obtain ⟨rfl, -⟩ := List.cons.inj split
        simp at oneLine
  · cases more with
    | nil => exact absurd (List.cons.inj split).1 other
    | cons d more =>
        obtain ⟨rfl, -⟩ := List.cons.inj split
        exact ⟨more, rfl⟩

theorem joined_cons (separator : Char) (row : Text) {rows : List Text} (nonempty : rows ≠ []) :
    joined [separator] (row :: rows) = row ++ separator :: joined [separator] rows := by
  rw [joined, List.intercalate_cons_of_ne_nil nonempty, List.append_assoc]
  rfl

theorem joined_singleton (separator : Char) (row : Text) : joined [separator] [row] = row := by
  simp [joined]

/-- Joined rows begin with the first of them. -/
theorem prefix_joined (separator : Char) (row : Text) (rows : List Text) :
    row <+: joined [separator] (row :: rows) := by
  cases rows with
  | nil => exact ⟨[], by rw [joined_singleton, List.append_nil]⟩
  | cons next more => exact ⟨_, (joined_cons separator row (List.cons_ne_nil _ _)).symm⟩

/-- Joined rows are whole lines and then the rows that are left. -/
theorem joined_append (first : List Text) {second : List Text} (nonempty : second ≠ []) :
    joined ['\n'] (first ++ second) = first.flatMap (· ++ ['\n']) ++ joined ['\n'] second := by
  induction first with
  | nil => rfl
  | cons row first ih =>
      rw [List.cons_append, joined_cons _ _ (by simp [nonempty]), ih]
      simp

/-- A line stands in its text and holds no line feed. -/
theorem infix_of_mem_splitOn {text line : Text} (member : line ∈ List.splitOn '\n' text) :
    line <:+: text ∧ '\n' ∉ line := by
  induction text with
  | nil =>
      obtain rfl := List.mem_singleton.mp member
      exact ⟨List.infix_rfl, List.not_mem_nil⟩
  | cons c text ih =>
      obtain ⟨first, later, after, parts, split, oneLine, _⟩ := exists_firstLine text
      by_cases feed : c = '\n'
      · rw [feed, splitOn_cons_self] at member
        rcases List.mem_cons.mp member with rfl | further
        · exact ⟨List.nil_infix, List.not_mem_nil⟩
        · obtain ⟨stands, lineOfIt⟩ := ih further
          exact ⟨List.infix_cons stands, lineOfIt⟩
      · rw [splitOn_cons_of_ne text feed, parts] at member
        rcases List.mem_cons.mp member with rfl | further
        · constructor
          · rw [split, ← List.cons_append]
            exact (List.prefix_append _ after).isInfix
          · intro inLine
            rcases List.mem_cons.mp inLine with same | inFirst
            · exact feed same.symm
            · exact oneLine inFirst
        · obtain ⟨stands, lineOfIt⟩ := ih (by rw [parts]; exact List.mem_cons_of_mem _ further)
          exact ⟨List.infix_cons stands, lineOfIt⟩

/-! ### Lines without their endings -/

theorem mem_of_mem_dropReturn {line : Text} {c : Char} (member : c ∈ line.dropReturn) : c ∈ line := by
  rw [dropReturn] at member
  split at member
  · exact List.dropLast_subset _ member
  · exact member

/-- No line of a text holds a line feed. -/
theorem not_mem_of_mem_lines {text line : Text} (member : line ∈ lines text) : '\n' ∉ line := by
  intro inLine
  simp only [lines, List.mem_append, List.mem_map, List.mem_filter, Option.mem_toList] at member
  rcases member with ⟨stretch, inInit, rfl⟩ | ⟨isLast, -⟩
  · exact (infix_of_mem_splitOn (List.dropLast_subset _ inInit)).2 (mem_of_mem_dropReturn inLine)
  · exact (infix_of_mem_splitOn (List.mem_of_getLast? isLast)).2 inLine

/-- Lines that end with no carriage return, of which the last is not empty, are the lines of the text they
are joined to. -/
theorem lines_joined {rows : List Text} (oneLine : ∀ row ∈ rows, '\n' ∉ row)
    (noReturn : ∀ row ∈ rows, row.dropReturn = row) (full : ∀ row ∈ rows.getLast?, row ≠ []) :
    lines (joined ['\n'] rows) = rows := by
  rcases List.eq_nil_or_concat rows with rfl | ⟨init, last, rfl⟩
  · rfl
  · rw [List.concat_eq_append] at oneLine noReturn full ⊢
    have lastFull : last ≠ [] := full last List.getLast?_concat
    have kept : init.map dropReturn = init := by
      have same : init.map dropReturn = init.map id :=
        List.map_congr_left fun row member => noReturn row (List.mem_append_left _ member)
      rwa [List.map_id] at same
    rw [lines, joined, List.splitOn_intercalate '\n' oneLine (by simp), List.dropLast_concat,
      List.getLast?_concat, kept]
    simp [lastFull]

end Lexical.Text
