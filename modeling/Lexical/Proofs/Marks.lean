/-
Module: Lexical.Proofs.Marks
Layer: Proofs
Purpose: The characters of a source, each marked with what the removal of comments found it to belong to.
  The stripped source is what the marked characters become (`filterMap_shown?_marks`), and this holds line
  by line: a line of the stripped source is what is kept of the line of the source (`exists_line`), seen
  with blanks for its block comments.
Imports: Lexical.Proofs.Stripping, Mathlib.Data.List.Chain
Main exports: Comment.Mark, Comment.marks, Comment.Mark.Linked, Comment.Parted.isChain, Comment.Mark.lines,
  Comment.Mark.visible, Comment.Mark.Kept, Text.lineStart, Comment.exists_line
-/

import Lexical.Proofs.Stripping
import Mathlib.Data.List.Chain

namespace Lexical

namespace Comment

/-- A character of a source, with what it was found to belong to. -/
structure Mark where
  c : Char
  found? : Option Covered
deriving DecidableEq, Repr

namespace Mark

/-- What the character becomes in the stripped source. -/
def shown? (mark : Mark) : Option Char :=
  match mark.found? with
  | some .line => none
  | some .block => some (if mark.c = '\n' then '\n' else ' ')
  | _ => some mark.c

/-- Line feeds outside line comments are kept. -/
theorem shown?_of_lineFeed {mark : Mark} (feed : mark.c = '\n') (notLine : mark.found? ≠ some .line) :
    mark.shown? = some '\n' := by
  rw [shown?]
  split
  case h_1 isLine => exact absurd isLine notLine
  case h_2 => rw [if_pos feed]
  case h_3 => rw [feed]

/-- No other character becomes a line feed. -/
theorem ne_lineFeed_of_shown? {mark : Mark} {c : Char} (other : mark.c ≠ '\n')
    (shows : mark.shown? = some c) : c ≠ '\n' := by
  rw [shown?] at shows
  split at shows
  case h_1 => simp at shows
  case h_2 =>
    rw [if_neg other] at shows
    exact Option.some.inj shows ▸ by decide
  case h_3 => exact Option.some.inj shows ▸ other

/-- A block comment begins with a slash, and a line comment ends only before a line feed. -/
def Linked (first second : Mark) : Prop :=
  (second.found? = some .block → first.found? = some .block ∨ second.c = '/') ∧
    (first.found? = some .line → second.found? = some .line ∨ second.c = '\n')

end Mark

/-- The characters of a part. -/
def Part.marks (part : Part) : List Mark :=
  part.2.map fun c => { c, found? := part.1 }

theorem Part.map_c (part : Part) : part.marks.map Mark.c = part.2 := by
  rw [Part.marks, List.map_map]
  exact List.map_id _

/-- The characters of a source. -/
def marks (source : Text) : List Mark :=
  (parts source).flatMap Part.marks

variable {text : Text} {parted : List Part}

/-- The marked characters are those of the text. -/
theorem Parted.map_c (cut : Parted text parted) : (parted.flatMap Part.marks).map Mark.c = text := by
  induction cut with
  | nil => rfl
  | gap clear onward ih =>
      rw [List.flatMap_cons, List.map_append, ih]
      rfl
  | hit stands onward ih =>
      rw [List.flatMap_cons, List.map_append, ih, Part.map_c]

theorem map_c_marks (source : Text) : (marks source).map Mark.c = source :=
  (parted_parts source).map_c

/-- What a part shows is what its characters become. -/
theorem Part.filterMap_shown? (part : Part) : part.marks.filterMap Mark.shown? = part.shown := by
  obtain ⟨found?, text⟩ := part
  rw [marks, List.filterMap_map]
  cases found? with
  | none => exact List.filterMap_some
  | some found =>
      cases found with
      | string => exact List.filterMap_some
      | block =>
          change text.filterMap (fun c => some (if c = '\n' then '\n' else ' ')) = _
          rw [List.filterMap_eq_map']
          rfl
      | line => exact List.filterMap_eq_nil_iff.mpr fun _ _ => rfl

theorem filterMap_shown?_marks (source : Text) : (marks source).filterMap Mark.shown? = strip source := by
  rw [marks, strip_eq, List.filterMap_flatMap]
  exact congrArg (List.flatMap · _) (funext Part.filterMap_shown?)

/-- A block comment at the start of a text begins with its slash. -/
theorem Parted.head_block (cut : Parted text parted) :
    ∀ mark ∈ (parted.flatMap Part.marks).head?, mark.found? = some .block → mark.c = '/' := by
  cases cut with
  | nil => simp
  | gap => rintro mark ⟨⟩ ⟨⟩
  | hit stands =>
      cases stands with
      | string => rintro mark ⟨⟩ ⟨⟩
      | block => rintro mark ⟨⟩ -; rfl
      | line => rintro mark ⟨⟩ ⟨⟩

/-- Line comments hold no line feed. -/
theorem Parted.line_oneLine (cut : Parted text parted) :
    ∀ mark ∈ parted.flatMap Part.marks, mark.found? = some .line → mark.c ≠ '\n' := by
  induction cut with
  | nil => simp
  | gap clear onward ih =>
      rw [List.flatMap_cons, List.forall_mem_append]
      exact ⟨by simp [Part.marks], ih⟩
  | hit stands onward ih =>
      rw [List.flatMap_cons, List.forall_mem_append]
      refine ⟨fun mark member isLine => ?_, ih⟩
      obtain ⟨c, inPassed, rfl⟩ := List.mem_map.mp member
      obtain rfl := Option.some.inj isLine
      cases stands with
      | @line body _ oneLine =>
          rintro rfl
          simp [oneLine] at inPassed

/-- Neighbouring characters are linked. -/
theorem Parted.isChain (cut : Parted text parted) :
    (parted.flatMap Part.marks).IsChain Mark.Linked := by
  induction cut with
  | nil => exact .nil
  | gap clear onward ih =>
      rw [List.flatMap_cons]
      refine List.isChain_cons.mpr ⟨fun mark atHead => ⟨fun isBlock => ?_, ?_⟩, ih⟩
      · exact Or.inr (onward.head_block mark atHead isBlock)
      · rintro ⟨⟩
  | @hit found passed rest later stands onward ih =>
      rw [List.flatMap_cons, List.isChain_append]
      refine ⟨?_, ih, fun first atLast second atHead => ⟨fun isBlock => ?_, fun isLine => ?_⟩⟩
      · -- inside what is found, neighbours belong to the same
        refine (List.pairwise_map.mpr (List.pairwise_of_forall fun c d => ?_)).isChain
        exact ⟨Or.inl, Or.inl⟩
      · exact Or.inr (onward.head_block second atHead isBlock)
      · obtain ⟨c, -, rfl⟩ := List.mem_map.mp (List.mem_of_getLast? atLast)
        obtain rfl := Option.some.inj isLine
        cases stands with
        | line oneLine ends =>
            have headChar : second.c ∈ rest.head? := by
              rw [← onward.map_c, List.head?_map]
              exact Option.mem_map_of_mem Mark.c atHead
            have lineFeed := ends second.c headChar
            exact Or.inr (by simpa using lineFeed)

/-! ### Lines -/

namespace Mark

/-- The marked characters of the lines. -/
def lines (marks : List Mark) : List (List Mark) :=
  marks.foldr
    (fun mark parts =>
      if mark.c = '\n' then [] :: parts
      else
        match parts with
        | [] => [[mark]]
        | first :: later => (mark :: first) :: later)
    [[]]

theorem lines_cons (mark : Mark) (marks : List Mark) :
    ∃ first later, lines marks = first :: later ∧
      lines (mark :: marks) =
        if mark.c = '\n' then [] :: first :: later else (mark :: first) :: later := by
  have nonempty : ∃ first later, lines marks = first :: later := by
    induction marks with
    | nil => exact ⟨[], [], rfl⟩
    | cons next marks ih =>
        obtain ⟨first, later, known⟩ := ih
        by_cases feed : next.c = '\n'
        · exact ⟨[], lines marks, by simp [lines, feed]⟩
        · refine ⟨next :: first, later, ?_⟩
          rw [lines] at known ⊢
          simp [known, feed]
  obtain ⟨first, later, known⟩ := nonempty
  refine ⟨first, later, known, ?_⟩
  rw [lines] at known ⊢
  simp [known]

/-- The lines of the characters are the lines of the text. -/
theorem map_c_lines (marks : List Mark) :
    (lines marks).map (List.map Mark.c) = List.splitOn '\n' (marks.map Mark.c) := by
  induction marks with
  | nil => rfl
  | cons mark marks ih =>
      obtain ⟨first, later, known, step⟩ := lines_cons mark marks
      rw [known] at ih
      rw [step, List.map_cons]
      by_cases feed : mark.c = '\n'
      · rw [if_pos feed, feed, Text.splitOn_cons_self, ← ih]
        rfl
      · rw [if_neg feed, Text.splitOn_cons_of_ne _ feed, ← ih]
        rfl

/-- What the characters of the lines become are the lines of what the text becomes. -/
theorem filterMap_shown?_lines {marks : List Mark}
    (oneLine : ∀ mark ∈ marks, mark.found? = some .line → mark.c ≠ '\n') :
    (lines marks).map (List.filterMap shown?) =
      List.splitOn '\n' (marks.filterMap shown?) := by
  induction marks with
  | nil => rfl
  | cons mark marks ih =>
      obtain ⟨here, further⟩ := List.forall_mem_cons.mp oneLine
      obtain ⟨first, later, known, step⟩ := lines_cons mark marks
      have sameLater := ih further
      rw [known] at sameLater
      rw [step]
      by_cases feed : mark.c = '\n'
      · have shows : mark.shown? = some '\n' :=
          shown?_of_lineFeed feed fun isLine => here isLine feed
        rw [if_pos feed, List.filterMap_cons_some shows, Text.splitOn_cons_self, ← sameLater]
        rfl
      · rw [if_neg feed, List.map_cons]
        cases shows : mark.shown? with
        | none =>
            rw [List.filterMap_cons_none shows, List.filterMap_cons_none shows, ← sameLater]
            rfl
        | some c =>
            have other : c ≠ '\n' := ne_lineFeed_of_shown? feed shows
            rw [List.filterMap_cons_some shows, List.filterMap_cons_some shows,
              Text.splitOn_cons_of_ne _ other, ← sameLater]
            rfl

/-- Where a line stands among the characters: behind the lines before it, and up to a line feed. -/
theorem exists_split_of_lines {marks : List Mark} {index : Nat} {line : List Mark}
    (isLine : (lines marks)[index]? = some line) :
    ∃ before after, marks = before ++ (line ++ after) ∧
      before.map Mark.c = ((lines marks).take index).flatMap (·.map Mark.c ++ ['\n']) ∧
        (∀ mark ∈ line, mark.c ≠ '\n') ∧ ∀ mark ∈ after.head?, mark.c = '\n' := by
  induction marks generalizing index line with
  | nil =>
      cases index with
      | zero =>
          obtain rfl : [] = line := Option.some.inj isLine
          exact ⟨[], [], rfl, rfl, by simp, by simp⟩
      | succ index => simp [lines] at isLine
  | cons mark marks ih =>
      obtain ⟨first, later, known, step⟩ := lines_cons mark marks
      rw [step] at isLine ⊢
      rw [known] at ih
      by_cases feed : mark.c = '\n'
      · rw [if_pos feed] at isLine ⊢
        cases index with
        | zero =>
            obtain rfl : [] = line := Option.some.inj isLine
            exact ⟨[], mark :: marks, rfl, rfl, by simp, by simp [feed]⟩
        | succ index =>
            obtain ⟨before, after, rfl, place, oneLine, ends⟩ := ih isLine
            refine ⟨mark :: before, after, rfl, ?_, oneLine, ends⟩
            rw [List.map_cons, feed, place, List.take_succ_cons, List.flatMap_cons]
            rfl
      · rw [if_neg feed] at isLine ⊢
        cases index with
        | zero =>
            obtain rfl : mark :: first = line := Option.some.inj isLine
            obtain ⟨before, after, split, place, oneLine, ends⟩ := @ih 0 first rfl
            obtain rfl := List.map_eq_nil_iff.mp place
            exact ⟨[], after, congrArg (mark :: ·) split, rfl,
              List.forall_mem_cons.mpr ⟨feed, oneLine⟩, ends⟩
        | succ index =>
            obtain ⟨before, after, rfl, place, oneLine, ends⟩ := @ih (index + 1) line isLine
            refine ⟨mark :: before, after, rfl, ?_, oneLine, ends⟩
            rw [List.map_cons, place, List.take_succ_cons, List.take_succ_cons, List.flatMap_cons,
              List.flatMap_cons]
            rfl

/-- What consists of whole lines ends with a line feed. -/
theorem lineFeed_of_getLast? {before : List Mark} {lines : List (List Mark)}
    (whole : before.map Mark.c = lines.flatMap (·.map Mark.c ++ ['\n'])) :
    ∀ mark ∈ before.getLast?, mark.c = '\n' := by
  intro mark atEnd
  have charAtEnd : (before.map Mark.c).getLast? = some mark.c := by
    rw [List.getLast?_map, Option.mem_def.mp atEnd]
    rfl
  rw [whole] at charAtEnd
  rcases List.eq_nil_or_concat lines with rfl | ⟨front, last, rfl⟩
  · simp at charAtEnd
  · rw [List.concat_eq_append, List.flatMap_append, List.flatMap_singleton, ← List.append_assoc,
      List.getLast?_concat] at charAtEnd
    exact (Option.some.inj charAtEnd).symm

/-- A character that is not dropped, as it is seen in the stripped source. -/
def visible (mark : Mark) : Char :=
  if mark.found? = some .block then ' ' else mark.c

theorem shown?_eq_visible {mark : Mark} (other : mark.c ≠ '\n') (kept : mark.found? ≠ some .line) :
    mark.shown? = some mark.visible := by
  rw [shown?, visible]
  split
  case h_1 isLine => exact absurd isLine kept
  case h_2 isBlock => rw [if_neg other, if_pos isBlock]
  case h_3 notBlock => rw [if_neg notBlock]

/-- On a line, the characters of a line comment are the last ones. -/
theorem line_of_head_line {marks : List Mark} (chain : marks.IsChain Linked)
    (oneLine : ∀ mark ∈ marks, mark.c ≠ '\n') (begins : ∀ mark ∈ marks.head?, mark.found? = some .line) :
    ∀ mark ∈ marks, mark.found? = some .line := by
  induction marks with
  | nil => simp
  | cons mark marks ih =>
      have isLine := begins mark rfl
      obtain ⟨linked, onward⟩ := List.isChain_cons.mp chain
      obtain ⟨-, furtherLine⟩ := List.forall_mem_cons.mp oneLine
      refine List.forall_mem_cons.mpr ⟨isLine, ih onward furtherLine fun next atHead => ?_⟩
      apply ((linked next atHead).2 isLine).resolve_right
      exact furtherLine next (List.mem_of_mem_head? atHead)

/-- The first characters are what is kept of a line, which ends before the others: they begin with a line
feed or with a line comment. -/
structure Kept (kept later : List Mark) : Prop where
  oneLine : ∀ mark ∈ kept, mark.c ≠ '\n'
  noLine : ∀ mark ∈ kept, mark.found? ≠ some .line
  ends : ∀ mark ∈ later.head?, mark.c = '\n' ∨ mark.found? = some .line

theorem Kept.cons {mark : Mark} {kept later : List Mark} (further : Kept kept later)
    (other : mark.c ≠ '\n') (notLine : mark.found? ≠ some .line) : Kept (mark :: kept) later where
  oneLine := List.forall_mem_cons.mpr ⟨other, further.oneLine⟩
  noLine := List.forall_mem_cons.mpr ⟨notLine, further.noLine⟩
  ends := further.ends

/-- Without its dropped characters, a line looks like the line of the stripped source. -/
theorem exists_kept {line after : List Mark} (chain : line.IsChain Linked)
    (oneLine : ∀ mark ∈ line, mark.c ≠ '\n') (ends : ∀ mark ∈ after.head?, mark.c = '\n') :
    ∃ kept dropped, line = kept ++ dropped ∧ line.filterMap shown? = kept.map visible ∧
      Kept kept (dropped ++ after) := by
  induction line with
  | nil =>
      refine ⟨[], [], rfl, rfl, ?_⟩
      constructor
      · simp
      · simp
      · exact fun mark atHead => Or.inl (ends mark atHead)
  | cons mark line ih =>
      by_cases isLine : mark.found? = some .line
      · have dropped := line_of_head_line chain oneLine (by rintro next ⟨⟩; exact isLine)
        have nothing : (mark :: line).filterMap shown? = [] := by
          apply List.filterMap_eq_nil_iff.mpr
          intro next member
          rw [shown?, dropped next member]
        refine ⟨[], mark :: line, rfl, nothing, ?_⟩
        constructor
        · simp
        · simp
        · simp [isLine]
      · obtain ⟨here, further⟩ := List.forall_mem_cons.mp oneLine
        obtain ⟨kept, dropped, rfl, shows, whole⟩ := ih (List.isChain_cons.mp chain).2 further
        refine ⟨mark :: kept, dropped, rfl, ?_, whole.cons here isLine⟩
        rw [List.filterMap_cons_some (shown?_eq_visible here isLine), shows, List.map_cons]

end Mark

end Comment

/-- The number of characters before the line with the index, line feeds included. -/
def Text.lineStart (text : Text) (index : Nat) : Nat :=
  (((List.splitOn '\n' text).take index).flatMap (· ++ ['\n'])).length

namespace Comment

/-- A line of the stripped source is what is kept of the line of the source. What is dropped of that comes
last, and a line feed stands before the line unless it is the first one. -/
theorem exists_line {source shown : Text} {index : Nat}
    (isShown : (List.splitOn '\n' (strip source))[index]? = some shown) :
    ∃ before kept dropped after, marks source = before ++ (kept ++ (dropped ++ after)) ∧
      before.length = source.lineStart index ∧ (∀ mark ∈ before.getLast?, mark.c = '\n') ∧
        (List.splitOn '\n' source)[index]? = some ((kept ++ dropped).map Mark.c) ∧
          shown = kept.map Mark.visible ∧ Mark.Kept kept (dropped ++ after) := by
  have linesOfSource := Mark.map_c_lines (marks source)
  have linesOfShown := Mark.filterMap_shown?_lines (parted_parts source).line_oneLine
  rw [map_c_marks] at linesOfSource
  rw [← marks, filterMap_shown?_marks] at linesOfShown
  rw [← linesOfShown, List.getElem?_map, Option.map_eq_some_iff] at isShown
  obtain ⟨line, isLine, rfl⟩ := isShown
  obtain ⟨before, after, split, place, oneLine, ends⟩ := Mark.exists_split_of_lines isLine
  have stretch : line <:+: marks source := ⟨before, after, by rw [List.append_assoc, split]⟩
  have chain : line.IsChain Mark.Linked := List.IsChain.infix (parted_parts source).isChain stretch
  obtain ⟨kept, dropped, rfl, seen, whole⟩ := Mark.exists_kept chain oneLine ends
  rw [List.append_assoc] at split
  refine ⟨before, kept, dropped, after, split, ?_, ?_, ?_, seen, whole⟩
  · rw [Text.lineStart, ← linesOfSource, ← List.map_take, List.flatMap_map, ← place, List.length_map]
  · exact Mark.lineFeed_of_getLast? place
  · rw [← linesOfSource, List.getElem?_map, isLine]
    rfl

end Comment

end Lexical
