/-
Module: Lexical.Proofs.Margins
Layer: Proofs
Purpose: Blanks at the ends of lines change nothing but columns. A line with a margin on either side is read
  as the line itself, only farther to the right (`readLine_margins`), and the lines of respaced texts are the
  same but for their margins (`Respaced.exists_lines`), so the tokens and the first error of respaced texts
  differ by the indentation of their lines. With what the removal of comments does to respaced texts this
  holds for the analysis of a source and of the source with margins added to its lines.
Imports: Lexical.Proofs.JoinedSources, Lexical.Proofs.Respacing
Main exports: Position.indented, Reading.shifted, Reads.shifted, readLine_margins, shiftedFrom,
  tokensFrom_shifted, firstError?_shifted, Respaced.exists_lines, tokenize_respaced, Text.withMargins,
  Text.indentation, analyze_withMargins
-/

import Lexical.Proofs.JoinedSources
import Lexical.Proofs.Respacing

namespace Lexical

/-! ### Readings farther to the right -/

/-- The position in the line with its indentation. -/
def Position.indented (indent : Nat → Nat) (position : Position) : Position :=
  { position with column := position.column + indent position.line }

/-- The lexeme so many columns farther to the right. -/
def Lexeme.shifted (columns : Nat) (lexeme : Lexeme) : Lexeme :=
  { lexeme with column := lexeme.column + columns }

/-- The misreading so many columns farther to the right. -/
def Misreading.shifted (columns : Nat) (misreading : Misreading) : Misreading :=
  { misreading with column := misreading.column + columns }

/-- The reading of a line that begins so many columns farther to the right. -/
def Reading.shifted (columns : Nat) (reading : Reading) : Reading :=
  { lexemes := reading.lexemes.map (·.shifted columns)
    misreading? := reading.misreading?.map (·.shifted columns) }

theorem Piece.lexemes_add (piece : Piece) (column columns : Nat) :
    piece.lexemes (column + columns) = (piece.lexemes column).map (·.shifted columns) := by
  cases piece <;> rfl

theorem Reads.shifted {column : Nat} {text : Text} {reading : Reading} (columns : Nat)
    (reads : Reads column text reading) : Reads (column + columns) text (reading.shifted columns) := by
  induction reads with
  | done => exact .done
  | @piece column piece rest later forced onward ih =>
      rw [Nat.add_right_comm] at ih
      have reads := Reads.piece forced ih
      rw [piece.lexemes_add] at reads
      rwa [Reading.shifted, List.map_append]
  | stuck stuck => exact .stuck stuck
  | @brokenFraction column c digits decimals rest nonempty all nonemptyDecimals allDecimals wordAfter
      noDigit =>
      have reads : Reads (column + columns) (digits ++ '.' :: (decimals ++ c :: rest)) _ :=
        .brokenFraction nonempty all nonemptyDecimals allDecimals wordAfter noDigit
      rwa [Nat.add_right_comm] at reads

/-- With margins a line is read as it is, as far to the right as the first margin is wide. -/
theorem readLine_margins {before after : Text} (isMarginBefore : before.IsMargin)
    (isMarginAfter : after.IsMargin) (line : Text) :
    readLine (before ++ (line ++ after)) = (readLine line).shifted before.length := by
  have reads := (reads_readLine line).shifted before.length
  have reads := reads.append_blanks isMarginAfter.blank isMarginAfter.oneLine
  exact (reads.blanks_append isMarginBefore.blank).eq_readLine

/-- The readings of lines that are numbered from the given number on, each of them as far to the right as its
line is indented. -/
def shiftedFrom (indent : Nat → Nat) : Nat → List Reading → List Reading
  | _, [] => []
  | number, reading :: readings =>
      reading.shifted (indent number) :: shiftedFrom indent (number + 1) readings

theorem tokensFrom_shifted (indent : Nat → Nat) (number : Nat) (readings : List Reading) :
    tokensFrom number (shiftedFrom indent number readings) =
      (tokensFrom number readings).map (·.relocate (·.indented indent)) := by
  induction readings generalizing number with
  | nil => rfl
  | cons reading readings ih =>
      rw [shiftedFrom, tokensFrom, ih, tokensFrom, List.map_append]
      simp [Reading.shifted, Lexeme.shifted, Lexeme.toToken, Token.relocate, Position.indented]

theorem firstError?_shifted (indent : Nat → Nat) (number : Nat) (readings : List Reading) :
    firstError? number (shiftedFrom indent number readings) =
      (firstError? number readings).map (·.relocate (·.indented indent)) := by
  induction readings generalizing number with
  | nil => rfl
  | cons reading readings ih =>
      rw [shiftedFrom, firstError?, ih, firstError?]
      cases ofLine : reading.misreading? with
      | none => simp [Reading.shifted, ofLine]
      | some misreading =>
          simp [Reading.shifted, ofLine, Misreading.shifted, Misreading.toError, LexicalError.relocate,
            Position.indented]

/-! ### The lines of respaced texts -/

namespace Text.Respaced

variable {indent : Nat → Nat} {tail : Text} {first last : Nat} {text other : Text}

/-- The lines of respaced texts are the same but for their margins, so they are read alike. -/
theorem exists_lines (isMargin : tail.IsMargin) (respaced : Respaced indent tail first last text other) :
    ∃ (line : Text) (lines : List Text) (after : Text) (others : List Text),
      List.splitOn '\n' text = line :: lines ∧
      List.splitOn '\n' other = (line ++ after) :: others ∧ after.IsMargin ∧
      others.map readLine = shiftedFrom indent (first + 1) (lines.map readLine) := by
  induction respaced with
  | nil => exact ⟨[], [], tail, [], rfl, List.splitOn_eq_singleton isMargin.oneLine, isMargin, rfl⟩
  | @keep _ _ c _ _ sameLine _ ih =>
      obtain ⟨line, lines, after, others, parts, partsOther, isMarginAfter, readAlike⟩ := ih
      refine ⟨c :: line, lines, after, others, ?_, ?_, isMarginAfter, readAlike⟩
      · rw [splitOn_cons_of_ne _ sameLine, parts]
        rfl
      · rw [splitOn_cons_of_ne _ sameLine, partsOther]
        rfl
  | @feed first _ afterHere before text other isMarginHere isMarginBefore width _ ih =>
      obtain ⟨line, lines, after, others, parts, partsOther, isMarginAfter, readAlike⟩ := ih
      refine ⟨[], line :: lines, afterHere, (before ++ (line ++ after)) :: others, ?_, ?_, isMarginHere, ?_⟩
      · rw [splitOn_cons_self, parts]
      · rw [List.splitOn_append_cons_self_of_not_mem isMarginHere.oneLine,
          splitOn_append_of_oneLine isMarginBefore.oneLine partsOther, List.nil_append]
      · rw [List.map_cons, List.map_cons, shiftedFrom, readLine_margins isMarginBefore isMarginAfter,
          readAlike, width]

/-- Respaced texts are tokenized alike, as far to the right as their lines are indented. -/
theorem tokenize_eq {before : Text} (isMargin : tail.IsMargin) (isMarginBefore : before.IsMargin)
    (width : before.length = indent 1) (respaced : Respaced indent tail 1 last text other) :
    tokenize (before ++ other) =
      match tokenize text with
      | .error error => .error (error.relocate (·.indented indent))
      | .ok table => .ok (table.relocate (·.indented indent)) := by
  obtain ⟨line, lines, after, others, parts, partsOther, isMarginAfter, readAlike⟩ :=
    respaced.exists_lines isMargin
  have readings_eq : readings (before ++ other) = shiftedFrom indent 1 (readings text) := by
    rw [readings, readings, parts, splitOn_append_of_oneLine isMarginBefore.oneLine partsOther,
      List.map_cons, List.map_cons, shiftedFrom, readLine_margins isMarginBefore isMarginAfter, width,
      readAlike]
  rw [tokenize_eq_outcomeFrom, tokenize_eq_outcomeFrom, readings_eq]
  exact outcomeFrom_relocate (tokensFrom_shifted indent 1 _) (firstError?_shifted indent 1 _)

end Text.Respaced

/-! ### A source with margins -/

/-- The text with other texts before and behind its lines, of which the first one has number zero. -/
def Text.withMargins (before after : Nat → Text) (text : Text) : Text :=
  joined ['\n'] ((List.splitOn '\n' text).mapIdx fun index line => before index ++ line ++ after index)

/-- The width of the margin before the line with the number, where the first line has number one. -/
def Text.indentation (before : Nat → Text) (number : Nat) : Nat :=
  (before (number - 1)).length

section Rows

variable {before after : Nat → Text} (isMarginBefore : ∀ index, (before index).IsMargin)
variable (isMarginAfter : ∀ index, (after index).IsMargin)

include isMarginBefore isMarginAfter

namespace Text

/-- Lines joined with margins are the joined lines, respaced. -/
theorem exists_respaced_rows {rows : List Text} (nonempty : rows ≠ [])
    (oneLine : ∀ row ∈ rows, '\n' ∉ row) (number : Nat) :
    ∃ tail last other, tail.IsMargin ∧
      joined ['\n'] (rows.mapIdx fun index row =>
        before (number + index) ++ row ++ after (number + index)) = before number ++ other ∧
      Respaced (indentation before) tail (number + 1) last (joined ['\n'] rows) other := by
  induction rows generalizing number with
  | nil => exact absurd rfl nonempty
  | cons row rows ih =>
      obtain ⟨here, further⟩ := List.forall_mem_cons.mp oneLine
      have same := Respaced.refl_of_oneLine (indentation before) (number + 1) here
      cases rows with
      | nil =>
          refine ⟨after number, number + 1, row ++ after number, isMarginAfter number, ?_, ?_⟩
          · simp [joined]
          · have atEnd : Respaced (indentation before) (after number) (number + 1) _ [] (after number) := .nil
            simpa [joined] using same.append atEnd
      | cons next more =>
          obtain ⟨tail, last, other, isMargin, joinedLater, respaced⟩ :=
            ih (List.cons_ne_nil _ _) further (number + 1)
          simp only [Nat.add_assoc, Nat.add_comm 1] at joinedLater
          refine ⟨tail, last, row ++ (after number ++ '\n' :: (before (number + 1) ++ other)), isMargin,
            ?_, ?_⟩
          · rw [List.mapIdx_cons, joined_cons _ _ (by simp), joinedLater]
            simp
          · rw [joined_cons _ _ (List.cons_ne_nil _ _)]
            exact same.append (.feed (isMarginAfter number) (isMarginBefore _) rfl respaced)

theorem exists_respaced_withMargins (text : Text) :
    ∃ tail last other, tail.IsMargin ∧ text.withMargins before after = before 0 ++ other ∧
      Respaced (indentation before) tail 1 last text other := by
  obtain ⟨tail, last, other, isMargin, whole, respaced⟩ :=
    exists_respaced_rows isMarginBefore isMarginAfter (List.splitOn_ne_nil '\n' text)
      (fun row member => (infix_of_mem_splitOn member).2) 0
  rw [joined, List.intercalate_splitOn] at respaced
  simp only [Nat.zero_add] at whole
  exact ⟨tail, last, other, isMargin, whole, respaced⟩

end Text

end Rows

/-- Blanks before and behind the lines of a source change nothing about its analysis but columns: what stands
on a line stands as far to the right as the blanks before the line are wide. -/
theorem analyze_withMargins {before after : Nat → Text} (isMarginBefore : ∀ index, (before index).IsMargin)
    (isMarginAfter : ∀ index, (after index).IsMargin) (source : Text) :
    analyze (source.withMargins before after) =
      match analyze source with
      | .error error => .error (error.relocate (·.indented (Text.indentation before)))
      | .ok table => .ok (table.relocate (·.indented (Text.indentation before))) := by
  obtain ⟨tail, last, other, isMargin, whole, respaced⟩ :=
    Text.exists_respaced_withMargins isMarginBefore isMarginAfter source
  obtain ⟨newTail, isMarginNew, stripped⟩ := respaced.exists_strip isMargin
  rw [analyze, whole, (isMarginBefore 0).strip_append]
  exact stripped.tokenize_eq isMarginNew (isMarginBefore 0) rfl

/-- A tabulator that indents the second line of a block comment, and carriage returns at the ends of the
lines, move the word behind the comment one column to the right. -/
theorem analyze_withMargins_in_comment :
    let before : Nat → Text := fun index => if index = 1 then ['\t'] else []
    let after : Nat → Text := fun _ => ['\r']
    Text.withMargins before after "/*\n*/a".toList = "/*\r\n\t*/a\r".toList ∧
      analyze "/*\n*/a".toList =
        .ok { entries := #[{ category := .identifier, literal := ['a'], position := ⟨2, 3⟩ }] } ∧
      analyze "/*\r\n\t*/a\r".toList =
        .ok { entries := #[{ category := .identifier, literal := ['a'], position := ⟨2, 4⟩ }] } := by
  intro before after
  have isMarginBefore : ∀ index, (before index).IsMargin := by
    intro index
    change Text.IsMargin (if index = 1 then ['\t'] else [])
    split
    case isTrue => exact List.forall_mem_singleton.mpr (by decide)
    case isFalse => exact .nil
  have isMarginAfter : ∀ index, (after index).IsMargin := fun _ =>
    List.forall_mem_singleton.mpr (by decide)
  have stripped : Comment.strip "/*\n*/a".toList = "  \n  a".toList := by
    have noEnd : ¬ ['*', '/'] <:+: ['\n'] ++ ['*'] := by simp [List.infix_cons_iff]
    have block : Comment.Stands .block "/*\n*/".toList ['a'] := .block noEnd
    have plain : Comment.strip (['a'] ++ []) = _ :=
      Comment.strip_plain_append (List.forall_mem_singleton.mpr rfl) []
    rw [Comment.strip_nil, List.append_nil] at plain
    exact (Comment.strip_hit block).trans (by rw [plain]; rfl)
  have word : Forced (.lexeme (wordCategory ['a']) ['a']) [] :=
    .word rfl (List.forall_mem_nil _) (Text.stopsRun_nil _)
  have notKeyword : wordCategory ['a'] = .identifier := by decide
  rw [notKeyword] at word
  have blanks : Cut "  ".toList [.blank ' ', .blank ' '] := .cons (.blank rfl) (.cons (.blank rfl) .nil)
  have cut : Cut "  a".toList [.blank ' ', .blank ' ', .lexeme .identifier ['a']] :=
    .cons (.blank rfl) (.cons (.blank rfl) (.cons word .nil))
  have analyzed : analyze "/*\n*/a".toList =
      .ok { entries := #[{ category := .identifier, literal := ['a'], position := ⟨2, 3⟩ }] } := by
    have lines : readings "  \n  a".toList = [readLine "  ".toList, readLine "  a".toList] := rfl
    rw [analyze, stripped, tokenize_eq_outcomeFrom, lines, (blanks.reads 1).eq_readLine,
      (cut.reads 1).eq_readLine]
    rfl
  have withMargins : Text.withMargins before after "/*\n*/a".toList = "/*\r\n\t*/a\r".toList := rfl
  have moved := analyze_withMargins isMarginBefore isMarginAfter "/*\n*/a".toList
  rw [analyzed, withMargins] at moved
  refine ⟨withMargins, analyzed, moved.trans ?_⟩
  simp [Table.relocate, Token.relocate, Position.indented, Text.indentation, before]

end Lexical
