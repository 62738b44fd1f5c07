/-
Module: Lexical.Proofs.StrippedColumns
Layer: Proofs
Purpose: The removal of comments keeps every position. The stripped source has as many lines as the source,
  and at each column of a line it shows the character of the source or a space; what it shows differently,
  or not at all, stands in a comment that the search found. Where a marked character says what it belongs
  to, the walk over the source has found that with the character inside it (`exists_hit_of_walk`).
Imports: Lexical.Proofs.Lines, Lexical.Proofs.Marks
Main exports: Comment.exists_hit_of_walk, Comment.exists_line_of_strip, Comment.exists_mem_line_of_strip,
  Comment.strip_keeps_columns
-/

import Lexical.Proofs.Lines
import Lexical.Proofs.Marks

namespace Lexical.Comment

/-! ### Where a marked character was found -/

/-- What a marked character belongs to was found by the walk, from before the character to behind it. -/
theorem exists_hit_of_walk {place : Place} {segments : List (Segment Covered)} (walk : Walk find place segments)
    {index : Nat} {mark : Mark} {found : Covered}
    (atIndex : ((segments.map part).flatMap Part.marks)[index]? = some mark)
    (belongs : mark.found? = some found) :
    ∃ first last, Segment.hit found first last ∈ segments ∧ first.offset ≤ place.offset + index ∧
      place.offset + index < last.offset := by
  induction walk generalizing index with
  | done => simp at atIndex
  | last => simp [part, Part.marks, Place.textUntil] at atIndex
  | @hit place other passed rest segments finds split nonempty onward ih =>
      rw [List.map_cons, List.flatMap_cons, part, Place.textUntil_past split] at atIndex
      have width : (Part.marks (some other, passed)).length = passed.length := List.length_map _
      by_cases inside : index < passed.length
      · rw [List.getElem?_append_left (by omega)] at atIndex
        obtain ⟨c, -, rfl⟩ := List.mem_map.mp (List.mem_of_getElem? atIndex)
        obtain rfl : other = found := Option.some.inj belongs
        refine ⟨place, place.past passed, List.mem_cons_self, Nat.le_add_right _ _, ?_⟩
        rw [Place.offset_past]
        omega
      · rw [List.getElem?_append_right (by omega), width] at atIndex
        obtain ⟨first, last, member, begins, ends⟩ := ih atIndex
        rw [Place.offset_past] at begins ends
        exact ⟨first, last, List.mem_cons_of_mem _ member, by omega, by omega⟩
  | @gap place c rest segments nothing split onward ih =>
      cases index with
      | zero =>
          obtain rfl : { c, found? := none } = mark := Option.some.inj atIndex
          exact absurd belongs (by simp)
      | succ index =>
          obtain ⟨first, last, member, begins, ends⟩ := ih atIndex
          rw [Place.offset_past, List.length_singleton] at begins ends
          exact ⟨first, last, List.mem_cons_of_mem _ member, by omega, by omega⟩

/-- What a character of a source belongs to was found there. -/
theorem exists_hit_of_mark {source : Text} {index : Nat} {mark : Mark} {found : Covered}
    (atIndex : (marks source)[index]? = some mark) (belongs : mark.found? = some found) :
    ∃ first last, Segment.hit found first last ∈ segments find source ∧ first.offset ≤ index ∧
      index < last.offset := by
  have hit := exists_hit_of_walk (walk_segments advances_find source) atIndex belongs
  rwa [Place.start, Nat.zero_add] at hit

/-! ### Lines and columns -/

/-- The stripped source has as many lines as the source. -/
theorem length_splitOn_strip (source : Text) :
    (List.splitOn '\n' (strip source)).length = (List.splitOn '\n' source).length := by
  have linesOfSource := Mark.map_c_lines (marks source)
  have linesOfShown := Mark.filterMap_shown?_lines (parted_parts source).line_oneLine
  rw [map_c_marks] at linesOfSource
  rw [← marks, filterMap_shown?_marks] at linesOfShown
  rw [← linesOfSource, ← linesOfShown, List.length_map, List.length_map]

/-- What is dropped at the end of a line belongs to a line comment. -/
theorem Mark.Kept.line_of_dropped {kept dropped after : List Mark} (ends : Kept kept (dropped ++ after))
    (chain : dropped.IsChain Linked) (oneLine : ∀ mark ∈ dropped, mark.c ≠ '\n') :
    ∀ mark ∈ dropped, mark.found? = some .line := by
  apply line_of_head_line chain oneLine
  intro mark atHead
  have head : mark ∈ (dropped ++ after).head? := by
    rw [List.head?_append, Option.mem_def.mp atHead]
    rfl
  exact (ends.ends mark head).resolve_left (oneLine mark (List.mem_of_mem_head? atHead))

/-- A line of the stripped source shows the characters of its line of the source, each as it is seen; those
that it does not show belong to a line comment. -/
theorem exists_line_of_strip {source shown : Text} {index : Nat}
    (isShown : (List.splitOn '\n' (strip source))[index]? = some shown) :
    ∃ kept dropped : List Mark, (List.splitOn '\n' source)[index]? = some ((kept ++ dropped).map Mark.c) ∧
      shown = kept.map Mark.visible ∧ (∀ mark ∈ dropped, mark.found? = some .line) ∧
        ∀ (column : Nat) (mark : Mark), (kept ++ dropped)[column]? = some mark →
          (marks source)[source.lineStart index + column]? = some mark := by
  obtain ⟨before, kept, dropped, after, split, place, -, isLine, seen, ends⟩ := exists_line isShown
  refine ⟨kept, dropped, isLine, seen, ?_, fun column mark atColumn => ?_⟩
  · have chain := (parted_parts source).isChain
    rw [← marks, split] at chain
    apply ends.line_of_dropped chain.right_of_append.right_of_append.left_of_append
    intro mark member feed
    have inLine : '\n' ∈ (kept ++ dropped).map Mark.c :=
      List.mem_map.mpr ⟨mark, List.mem_append_right _ member, feed⟩
    exact (Text.infix_of_mem_splitOn (List.mem_of_getElem? isLine)).2 inLine
  · have inLine : column < (kept ++ dropped).length := (List.getElem?_eq_some_iff.mp atColumn).1
    rw [split, ← List.append_assoc kept, ← place, List.getElem?_append_right (Nat.le_add_right _ _),
      Nat.add_sub_cancel_left, List.getElem?_append_left inLine, atColumn]

/-- Apart from spaces, the characters of a stripped line stand in its line of the source. -/
theorem exists_mem_line_of_strip {source shown : Text} {index : Nat} {c : Char}
    (isShown : (List.splitOn '\n' (strip source))[index]? = some shown) (member : c ∈ shown)
    (other : c ≠ ' ') : ∃ line, (List.splitOn '\n' source)[index]? = some line ∧ c ∈ line := by
  obtain ⟨kept, dropped, isLine, rfl, -⟩ := exists_line_of_strip isShown
  obtain ⟨mark, inKept, rfl⟩ := List.mem_map.mp member
  have outside : mark.found? ≠ some .block := fun isBlock => other (if_pos isBlock)
  refine ⟨_, isLine, List.mem_map.mpr ⟨mark, List.mem_append_left _ inKept, ?_⟩⟩
  rw [Mark.visible, if_neg outside]

/-- The removal of comments keeps every position. The stripped source has the lines of the source; none of
them is longer, and at each column stands the character of the source or a space. Where a character of the
source is not seen, it lies in a comment that the search has found. -/
theorem strip_keeps_columns (source : Text) :
    (List.splitOn '\n' (strip source)).length = (List.splitOn '\n' source).length ∧
      ∀ (index : Nat) (shown given : Text), (List.splitOn '\n' (strip source))[index]? = some shown →
        (List.splitOn '\n' source)[index]? = some given →
          shown.length ≤ given.length ∧
            (∀ (column : Nat) (c : Char), shown[column]? = some c → given[column]? = some c ∨ c = ' ') ∧
              ∀ column < given.length, shown[column]? ≠ given[column]? →
                ∃ found first last, Segment.hit found first last ∈ segments find source ∧
                  (found = .block ∨ found = .line) ∧
                    first.offset ≤ source.lineStart index + column ∧
                      source.lineStart index + column < last.offset := by
  refine ⟨length_splitOn_strip source, fun index shown given isShown isLine => ?_⟩
  obtain ⟨kept, dropped, isLineOf, rfl, allLine, inSource⟩ := exists_line_of_strip isShown
  obtain rfl := Option.some.inj (isLine.symm.trans isLineOf)
  refine ⟨by simp, fun column c atColumn => ?_, fun column inLine differs => ?_⟩
  · rw [List.getElem?_map, Option.map_eq_some_iff] at atColumn
    obtain ⟨mark, atMark, rfl⟩ := atColumn
    rw [List.map_append, List.getElem?_append_left (by simpa using (List.getElem?_eq_some_iff.mp atMark).1),
      List.getElem?_map, atMark, Mark.visible]
    split
    · exact Or.inr rfl
    · exact Or.inl rfl
  · rw [List.length_map] at inLine
    have atColumn : (kept ++ dropped)[column]? = some (kept ++ dropped)[column] :=
      List.getElem?_eq_getElem inLine
    generalize (kept ++ dropped)[column] = mark at atColumn
    have belongs : mark.found? = some .block ∨ mark.found? = some .line := by
      by_cases inKept : column < kept.length
      · -- a kept character is seen as it is unless it belongs to a block comment
        apply Or.inl
        apply Decidable.byContradiction
        intro outside
        apply differs
        rw [List.getElem?_map, List.getElem?_map, atColumn, ← List.getElem?_append_left inKept, atColumn]
        exact congrArg some (if_neg outside)
      · rw [List.getElem?_append_right (by omega)] at atColumn
        exact Or.inr (allLine mark (List.mem_of_getElem? atColumn))
    rcases belongs with isBlock | isLineComment
    · obtain ⟨first, last, member, within⟩ := exists_hit_of_mark (inSource column mark atColumn) isBlock
      exact ⟨.block, first, last, member, Or.inl rfl, within⟩
    · obtain ⟨first, last, member, within⟩ :=
        exists_hit_of_mark (inSource column mark atColumn) isLineComment
      exact ⟨.line, first, last, member, Or.inr rfl, within⟩

end Lexical.Comment
