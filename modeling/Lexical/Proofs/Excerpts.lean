/-
Module: Lexical.Proofs.Excerpts
Layer: Proofs
Purpose: An excerpt points at what is wrong. What is not shown of the line stands either in its indentation,
  which ends before the error, or in the blanks at its end, which begin behind the reported characters; so
  the line is shown from its error on as it stands in the source, and the caret, drawn as far to the right
  as the column is behind the indentation, comes to stand under the first reported character.
Imports: Lexical.Fault, Lexical.Proofs.BlankTails, Lexical.Proofs.ErrorPlaces
Main exports: indentation_le, Text.trimEnd_append, excerptLine, caretLine, excerpt_of_line, Underlines,
  excerpt_underlines
-/

import Lexical.Fault
import Lexical.Proofs.BlankTails
import Lexical.Proofs.ErrorPlaces

namespace Lexical

namespace Text

/-! ### Texts of single characters -/

/-- Where a character stands for the first time. -/
theorem idxOf?_append_cons {before : Text} {c : Char} (free : c ∉ before) (after : Text) :
    (before ++ c :: after).idxOf? c = some before.length := by
  induction before with
  | nil => simp [List.idxOf?_cons]
  | cons d before ih =>
      rw [List.mem_cons, not_or] at free
      have differs : (d == c) = false := beq_false_of_ne (Ne.symm free.1)
      rw [List.cons_append, List.idxOf?_cons, differs, ih free.2]
      rfl

/-- A single character at the right end of a field. -/
theorem padLeft_singleton (width : Nat) (fill c : Char) :
    padLeft width fill [c] = List.replicate (width - 1) fill ++ [c] := rfl

/-! ### What is left out of a line -/

/-- Blanks are trimmed only behind the last character that is none. -/
theorem trimEnd_append {front : Text} (full : ∀ c ∈ front.getLast?, isBlank c = false) (after : Text) :
    trimEnd (front ++ after) = front ++ trimEnd after := by
  have kept : front.reverse.dropWhile isBlank = front.reverse := by
    rw [← List.head?_reverse] at full
    cases reversed : front.reverse with
    | nil => rfl
    | cons c rest =>
        have notBlank := full c (by rw [reversed]; rfl)
        rw [List.dropWhile_cons_of_neg (by simp [notBlank])]
  rw [trimEnd, trimEnd, List.reverse_append, List.dropWhile_append, kept]
  split
  case isTrue nothing =>
    rw [List.isEmpty_iff.mp nothing, List.reverse_reverse, List.reverse_nil, List.append_nil]
  case isFalse => rw [List.reverse_append, List.reverse_reverse]

theorem mem_of_mem_trimEnd {text : Text} {c : Char} (member : c ∈ trimEnd text) : c ∈ text := by
  rw [trimEnd, List.mem_reverse] at member
  exact List.mem_reverse.mp ((List.dropWhile_suffix _).subset member)

end Text

/-- A line is indented no farther than to a character that is no indentation. -/
theorem indentation_le {rest : Text} (before : Text) (stops : rest.StopsRun isIndent) :
    indentation (before ++ rest) ≤ before.length := by
  have nothing : rest.takeWhile isIndent = [] := Text.takeWhile_run (List.forall_mem_nil _) stops
  rw [indentation, List.takeWhile_append, nothing]
  split
  · exact (List.append_nil before).symm ▸ Nat.le_refl _
  · exact (List.takeWhile_sublist _).length_le

theorem isIndent_of_not_isBlank {c : Char} (notBlank : Text.isBlank c = false) : isIndent c = false := by
  rw [isIndent, Bool.or_eq_false_iff, beq_eq_false_iff_ne, beq_eq_false_iff_ne]
  constructor <;> rintro rfl <;> exact absurd notBlank (by decide)

/-- From a solid stretch on, a line is shown as it stands, up to the blanks at its end. -/
theorem trimEnd_drop_indentation {line before literal after : Text} (solid : literal.Solid)
    (split : line = before ++ (literal ++ after)) :
    indentation line ≤ before.length ∧
      Text.trimEnd (line.drop (indentation line)) =
        before.drop (indentation line) ++ (literal ++ Text.trimEnd after) := by
  have stops : Text.StopsRun isIndent (literal ++ after) := by
    obtain ⟨c, more, rfl⟩ := List.exists_cons_of_ne_nil solid.nonempty
    exact Text.stopsRun_cons.mpr (isIndent_of_not_isBlank (solid.head c rfl))
  have within : indentation line ≤ before.length := by
    rw [split]
    exact indentation_le before stops
  refine ⟨within, ?_⟩
  generalize indentation line = indent at within ⊢
  rw [split, List.drop_append_of_le_length within, ← List.append_assoc,
    Text.trimEnd_append (solid.last_append _), List.append_assoc]

/-! ### The two lines at the end of an excerpt -/

/-- The line that shows the source. -/
def excerptLine (number : Nat) (line : Text) : Text :=
  Text.ofNat number ++ " | ".toList ++ Text.trimEnd (line.drop (indentation line))

/-- The line with the caret at the end of so many characters. -/
def caretLine (number width : Nat) : Text :=
  Text.padLeft ((Text.ofNat number).length + 2) ' ' ['|'] ++ ' ' :: Text.padLeft width '-' ['^']

/-- The excerpt of an error on a line of the content. -/
theorem excerpt_of_line {error : LexicalError} {content line : Text} (file : Text)
    (isLine : content.line? error.position.line = some line) :
    ∃ above, excerpt error content file =
      if maxFieldWidth < caretWidth error.position.column line then .error .caretTooWide
      else .ok (above ++ '\n' :: (excerptLine error.position.line line ++
        '\n' :: (caretLine error.position.line (caretWidth error.position.column line) ++ ['\n']))) := by
  refine ⟨error.headline ++ '\n' :: ("-> ".toList ++ file ++ '\n' ::
    Text.padLeft ((Text.ofNat error.position.line).length + 2) ' ' ['|']), ?_⟩
  rw [excerpt, isLine]
  simp [excerptLine, caretLine]

theorem excerptLine_oneLine {number : Nat} {line : Text} (oneLine : '\n' ∉ line) :
    '\n' ∉ excerptLine number line := by
  have inLine : '\n' ∉ Text.trimEnd (line.drop (indentation line)) := fun member =>
    oneLine (List.drop_subset _ _ (Text.mem_of_mem_trimEnd member))
  have inNumber : '\n' ∉ Text.ofNat number := Text.not_mem_ofNat (by decide) number
  simp [excerptLine, inLine, inNumber]

theorem caretLine_eq (number width : Nat) :
    caretLine number width = List.replicate ((Text.ofNat number).length + 1) ' ' ++
      '|' :: ' ' :: (List.replicate (width - 1) '-' ++ ['^']) := by
  simp [caretLine, Text.padLeft_singleton]

theorem caretLine_oneLine (number width : Nat) : '\n' ∉ caretLine number width := by
  simp [caretLine_eq, List.mem_replicate]

/-- Both lines have their first bar in the same place. -/
theorem bar_excerptLine (number : Nat) (line : Text) :
    (excerptLine number line).idxOf? '|' = some ((Text.ofNat number).length + 1) := by
  have free : '|' ∉ Text.ofNat number ++ [' '] := by
    simp [Text.not_mem_ofNat (c := '|') (by decide) number]
  have bar := Text.idxOf?_append_cons free (' ' :: Text.trimEnd (line.drop (indentation line)))
  simpa [excerptLine] using bar

theorem bar_caretLine (number width : Nat) :
    (caretLine number width).idxOf? '|' = some ((Text.ofNat number).length + 1) := by
  rw [caretLine_eq, Text.idxOf?_append_cons (by simp [List.mem_replicate]), List.length_replicate]

/-- There is one caret, at the end of the dashes. -/
theorem caret_caretLine {number width : Nat} (positive : 1 ≤ width) :
    (caretLine number width).count '^' = 1 ∧
      (caretLine number width).idxOf? '^' = some ((Text.ofNat number).length + 2 + width) := by
  generalize dashes : List.replicate ((Text.ofNat number).length + 1) ' ' ++
    '|' :: ' ' :: List.replicate (width - 1) '-' = before
  have free : '^' ∉ before := by
    simp [← dashes, List.mem_replicate]
  have length : before.length = (Text.ofNat number).length + 2 + width := by
    rw [← dashes]
    simp only [List.length_append, List.length_cons, List.length_replicate]
    omega
  have whole : caretLine number width = before ++ '^' :: [] := by
    rw [caretLine_eq, ← dashes, List.append_assoc]
    rfl
  rw [whole, Text.idxOf?_append_cons free, length, List.count_append, List.count_eq_zero_of_not_mem free]
  exact ⟨rfl, rfl⟩

/-- The second line has its one caret under the first character of the literal, which stands in the first
line, and the bars of both lines stand one below the other. -/
structure Underlines (literal excerptLine caretLine : Text) (caret : Nat) : Prop where
  bars : ∃ bar, excerptLine.idxOf? '|' = some bar ∧ caretLine.idxOf? '|' = some bar
  oneCaret : caretLine.count '^' = 1
  atCaret : caretLine.idxOf? '^' = some caret
  stands : literal.StandsAt (caret + 1) excerptLine

/-- Under a line that holds a solid literal, the caret of a width counted from the indentation to the
literal stands under the literal. -/
theorem underlines_of_split {line before literal after : Text} (number : Nat) (solid : literal.Solid)
    (split : line = before ++ (literal ++ after)) :
    ∃ caret, Underlines literal (excerptLine number line)
        (caretLine number (before.length + 1 - indentation line)) caret ∧
      (excerptLine number line).drop caret = literal ++ Text.trimEnd after := by
  obtain ⟨within, seen⟩ := trimEnd_drop_indentation solid split
  generalize frontEq : Text.ofNat number ++ " | ".toList ++ before.drop (indentation line) = front
  have shown : excerptLine number line = front ++ (literal ++ Text.trimEnd after) := by
    rw [excerptLine, seen, ← frontEq, List.append_assoc, List.append_assoc, List.append_assoc]
  have length : front.length =
      (Text.ofNat number).length + 2 + (before.length + 1 - indentation line) := by
    rw [← frontEq]
    simp only [List.length_append, List.length_drop]
    have bar : " | ".toList.length = 3 := rfl
    omega
  obtain ⟨oneCaret, atCaret⟩ :=
    @caret_caretLine number (before.length + 1 - indentation line) (by omega)
  rw [← length] at atCaret
  refine ⟨front.length, ?_, ?_⟩
  · exact {
      bars := ⟨_, bar_excerptLine number line, bar_caretLine number _⟩
      oneCaret := oneCaret
      atCaret := atCaret
      stands := ⟨front, Text.trimEnd after, by rw [shown, List.append_assoc], rfl⟩ }
  · rw [shown, List.drop_left]

/-- The error of a source stands behind the spaces and tabs that its line begins with, and it is shown with
the caret under the first character that is reported. This can fail only where it stands too far behind
them. -/
theorem excerpt_underlines {source : Text} {error : LexicalError}
    (failed : tokenize source = .error error) (file : Text) :
    ∃ line indent, source.line? error.position.line = some line ∧
      error.fault.literal.StandsAt error.position.column line ∧
      indent = (line.takeWhile fun c => c == ' ' || c == '\t').length ∧
      indent < error.position.column ∧
      (excerpt error source file = .error .caretTooWide ↔ 65535 < error.position.column - indent) ∧
      (error.position.column - indent ≤ 65535 →
        ∃ text above shown pointer caret, excerpt error source file = .ok text ∧
          List.splitOn '\n' text = above ++ [shown, pointer, []] ∧
            Underlines error.fault.literal shown pointer caret ∧
              shown.drop caret = Text.trimEnd (line.drop (error.position.column - 1))) := by
  obtain ⟨line, isLine, inLines, stands, solid⟩ := tokenize_error_stands failed
  have oneLine := Text.not_mem_of_mem_lines inLines
  obtain ⟨above, outcome⟩ := excerpt_of_line file isLine
  refine ⟨line, indentation line, isLine, stands, rfl, ?_⟩
  obtain ⟨before, after, split, place⟩ := stands
  rw [List.append_assoc] at split
  obtain ⟨within, -⟩ := trimEnd_drop_indentation solid split
  have width : caretWidth error.position.column line = error.position.column - indentation line := by
    rw [caretWidth]
    omega
  rw [width, maxFieldWidth] at outcome
  refine ⟨by omega, ?_, fun fits => ?_⟩
  · rw [outcome]
    by_cases wide : 65535 < error.position.column - indentation line <;> simp [wide]
  · rw [if_neg (by omega)] at outcome
    obtain ⟨caret, underlines, behind⟩ := underlines_of_split error.position.line solid split
    rw [← place] at underlines
    refine ⟨_, List.splitOn '\n' above, _, _, caret, outcome, ?_, underlines, ?_⟩
    · rw [List.splitOn_append_cons_self,
        List.splitOn_append_cons_self_of_not_mem (excerptLine_oneLine oneLine),
        List.splitOn_append_cons_self_of_not_mem (caretLine_oneLine _ _), List.splitOn_nil]
    · rw [behind, ← Text.trimEnd_append solid.last, place, Nat.add_sub_cancel, split, List.drop_left]

/-- A sign that begins no symbol, on an indented line with a blank at its end. -/
theorem excerpt_underlines_indented :
    tokenize "\t  $ ".toList = .error { fault := .unknownToken ['$'], position := ⟨1, 4⟩ } ∧
      ∃ text above,
        excerpt { fault := .unknownToken ['$'], position := ⟨1, 4⟩ } "\t  $ ".toList "a.c".toList =
          .ok text ∧
          List.splitOn '\n' text = above ++ ["1 | $".toList, "  | ^".toList, []] ∧
            Underlines ['$'] "1 | $".toList "  | ^".toList 4 := by
  have stuck : Stuck "$ ".toList (.unknownToken (faultyRun "$ ".toList)) :=
    .sign (by decide) (by decide) (by decide) (by decide)
  have reads : Reads 1 ("\t  ".toList ++ "$ ".toList) _ :=
    .blanks_append (List.all_eq_true.mp rfl) (.stuck stuck)
  have failed : tokenize "\t  $ ".toList = .error { fault := .unknownToken ['$'], position := ⟨1, 4⟩ } :=
    tokenize_of_misread rfl reads rfl
  obtain ⟨line, indent, isLine, -, -, -, -, points⟩ := excerpt_underlines failed "a.c".toList
  obtain rfl : "\t  $ ".toList = line := Option.some.inj isLine
  obtain ⟨text, above, shown, pointer, caret, outcome, lines, underlines, -⟩ :=
    points (Nat.le_trans (Nat.sub_le _ _) (by decide))
  obtain rfl : "Error: UnknownToken `$` at line 1, column 4\n-> a.c\n  |\n1 | $\n  | ^\n".toList = text :=
    Except.ok.inj outcome
  have wholeText : above ++ [shown, pointer, []] =
      ["Error: UnknownToken `$` at line 1, column 4".toList, "-> a.c".toList, "  |".toList] ++
        ["1 | $".toList, "  | ^".toList, []] := lines.symm.trans (by decide)
  obtain ⟨rfl, sameLast⟩ := List.append_inj' wholeText rfl
  simp only [List.cons.injEq, and_true] at sameLast
  obtain ⟨rfl, rfl⟩ := sameLast
  refine ⟨failed, _, _, outcome, lines, ?_⟩
  have atCaret : 4 = caret := Option.some.inj underlines.atCaret
  rwa [atCaret]

end Lexical
