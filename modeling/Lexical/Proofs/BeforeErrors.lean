/-
Module: Lexical.Proofs.BeforeErrors
Layer: Proofs
Purpose: What stands before the error of a source is valid by itself. The scanner holds the tokens of the lines
  above the error and of what stands in front of it on its own line; a source that ends there has exactly
  these tokens. Cutting the line off takes characters away that earlier pieces had looked at, but no piece
  comes out differently for it (`Reads.exists_fault`).
Imports: Lexical.Proofs.ErrorPlaces, Lexical.Proofs.JoinedSources, Lexical.Proofs.Marks,
  Lexical.Proofs.Sessions
Main exports: Scanner.scanner_run_of_misread, table_scanSource_of_error, tokenize_rows_before_error,
  Text.take_lineStart, tokenize_before_error
-/

import Lexical.Proofs.ErrorPlaces
import Lexical.Proofs.JoinedSources
import Lexical.Proofs.Marks
import Lexical.Proofs.Sessions

namespace Lexical

/-! ### The scanner at an error -/

/-- A run ends with the first line that has a fault; the scanner is then the one that a session with the lines
up to this one leaves behind. -/
theorem Scanner.scanner_run_of_misread (scanner : Scanner) {before after : List Text} {line : Text}
    {misreading : Misreading} (noFault : ∀ earlier ∈ before, (readLine earlier).misreading? = none)
    (misread : (readLine line).misreading? = some misreading) :
    (scanner.run (before ++ line :: after)).scanner = scanner.after (before ++ [line]) := by
  induction before generalizing scanner with
  | nil => rw [List.nil_append, scanner.run_cons_of_some after misread, List.nil_append, after_cons, after_nil]
  | cons earlier before ih =>
      obtain ⟨here, further⟩ := List.forall_mem_cons.mp noFault
      rw [List.cons_append, scanner.run_cons_of_none _ here]
      exact ih _ further

/-- The first lines of a source are read alike with and without their endings. -/
theorem take_readings {source : Text} {count : Nat} (within : count ≤ source.lines.length) :
    (readings source).take count = (source.lines.map readLine).take count := by
  rcases map_readLine_lines source with same | same
  · rw [same]
  · rw [← same, List.take_append_of_le_length (by rwa [List.length_map])]

/-- The lines up to one of them are those before it and this one. -/
theorem take_readLine_upTo (before after : List Text) (line : Text) :
    ((before ++ line :: after).map readLine).take (before.length + 1) = (before ++ [line]).map readLine := by
  rw [List.append_cons, List.map_append, List.take_left' (by simp)]

/-- The table of a scanner that has met an error holds the tokens of the lines up to the one with the error. -/
theorem table_scanSource_of_error {source : Text} {error : LexicalError}
    (failed : tokenize source = .error error) :
    (scanSource source).scanner.table =
      { entries := (tokensFrom 1 ((source.lines.map readLine).take error.position.line)).toArray } := by
  obtain ⟨before, line, after, misreading, lines, noFault, misread, rfl⟩ :=
    exists_line_of_firstError? (tokenize_eq_error_iff.mp failed)
  apply Table.eq_of_tokens_eq
  rw [scanSource, lines, Scanner.start.scanner_run_of_misread noFault misread, Scanner.tokens_after]
  simp only [Misreading.toError, take_readLine_upTo]
  simp [Scanner.start, Table.tokens, Table.empty]

/-! ### Rows up to an error -/

/-- Rows of which the last one is read like the given row, but without its fault, have the tokens that they
have with this row in its place. -/
theorem tokenize_joined_of_reads {before : List Text} {front row : Text}
    (oneLine : ∀ other ∈ before ++ [front], '\n' ∉ other)
    (noFault : ∀ earlier ∈ before, (readLine earlier).misreading? = none)
    (reads : Reads 1 front { readLine row with misreading? := none }) :
    tokenize (Text.joined ['\n'] (before ++ [front])) =
      .ok { entries := (tokensFrom 1 ((before ++ [row]).map readLine)).toArray } := by
  have rows : readings (Text.joined ['\n'] (before ++ [front])) = (before ++ [front]).map readLine := by
    rw [readings, Text.joined, List.splitOn_intercalate '\n' oneLine (by simp)]
  rw [tokenize_eq_ok_iff_readings, rows]
  constructor
  · rw [firstError?_eq_none_iff, List.forall_mem_map, List.forall_mem_append]
    refine ⟨noFault, List.forall_mem_singleton.mpr ?_⟩
    rw [reads.eq_readLine]
  · simp [Table.tokens, tokensFrom_append, tokensFrom, reads.eq_readLine]

/-- Rows with an error, cut off in front of it and joined by line feeds, have the tokens that the rows have up to
the error. -/
theorem tokenize_rows_before_error {rows : List Text} {error : LexicalError}
    (oneLine : ∀ row ∈ rows, '\n' ∉ row) (first : firstError? 1 (rows.map readLine) = some error) :
    ∃ row, rows[error.position.line - 1]? = some row ∧ 1 ≤ error.position.line ∧
      error.position.column - 1 ≤ row.length ∧
      tokenize (Text.joined ['\n']
          (rows.take (error.position.line - 1) ++ [row.take (error.position.column - 1)])) =
        .ok { entries := (tokensFrom 1 ((rows.map readLine).take error.position.line)).toArray } := by
  obtain ⟨before, row, after, misreading, rfl, noFault, misread, rfl⟩ := exists_line_of_firstError? first
  obtain ⟨front, behind, split, place, -, readsFront⟩ := (reads_readLine row).exists_fault misread
  have oneLineRow : '\n' ∉ row := oneLine row (by simp)
  have oneLineFront : ∀ other ∈ before ++ [front], '\n' ∉ other := by
    refine List.forall_mem_append.mpr ⟨fun earlier member => oneLine earlier (by simp [member]), ?_⟩
    refine List.forall_mem_singleton.mpr fun member => oneLineRow ?_
    rw [split]
    exact List.mem_append_left _ member
  have column : misreading.column - 1 = front.length := by omega
  have cutOff : row.take front.length = front := by rw [split, List.take_left]
  refine ⟨row, by simp [Misreading.toError], by simp [Misreading.toError], ?_, ?_⟩
  · simp [Misreading.toError, column, split]
  · simp only [Misreading.toError, Nat.add_sub_cancel, column, List.take_left, take_readLine_upTo, cutOff]
    exact tokenize_joined_of_reads oneLineFront noFault (readsFront oneLineRow)

/-! ### Sources up to an error -/

/-- A text that is cut off within one of its lines is the lines before and the front of this one. -/
theorem Text.take_lineStart {text row : Text} {index column : Nat}
    (isRow : (List.splitOn '\n' text)[index]? = some row) (within : column ≤ row.length) :
    text.take (text.lineStart index + column) =
      joined ['\n'] ((List.splitOn '\n' text).take index ++ [row.take column]) := by
  obtain ⟨above, below, rows, place⟩ : ∃ above below, List.splitOn '\n' text = above ++ row :: below ∧
      above.length = index := by
    obtain ⟨inBounds, rfl⟩ := List.getElem?_eq_some_iff.mp isRow
    refine ⟨(List.splitOn '\n' text).take index, (List.splitOn '\n' text).drop (index + 1), ?_,
      List.length_take_of_le inBounds.le⟩
    rw [← List.drop_eq_getElem_cons inBounds, List.take_append_drop]
  have whole : joined ['\n'] (above ++ row :: below) = text := by
    rw [← rows]
    exact List.intercalate_splitOn '\n'
  obtain ⟨rest, fromRow⟩ := prefix_joined '\n' row below
  have front : (List.splitOn '\n' text).take index = above := by rw [rows, ← place, List.take_left]
  have split : text = above.flatMap (· ++ ['\n']) ++ (row ++ rest) := by
    rw [← whole, joined_append _ (List.cons_ne_nil _ _), fromRow]
  rw [lineStart, front, joined_append _ (List.cons_ne_nil _ _), joined_singleton]
  conv_lhs => rw [split]
  rw [List.take_length_add_append, List.take_append_of_le_length within]

/-- What stands before the error of a source is valid: the lines above it and what stands in front of it on its
own line have exactly the tokens that the scanner held when it met the error. It makes no difference whether
the endings of these lines are kept. -/
theorem tokenize_before_error {source : Text} {error : LexicalError}
    (failed : tokenize source = .error error) :
    ∃ line, source.line? error.position.line = some line ∧
      tokenize (Text.joined ['\n'] (source.lines.take (error.position.line - 1) ++
        [line.take (error.position.column - 1)])) = .ok (scanSource source).scanner.table ∧
      tokenize (source.take (source.lineStart (error.position.line - 1) + (error.position.column - 1))) =
        .ok (scanSource source).scanner.table := by
  -- the rows are taken once without their endings and once with them
  obtain ⟨line, isLine, positive, -, valid⟩ :=
    tokenize_rows_before_error (fun _ => Text.not_mem_of_mem_lines) (tokenize_eq_error_iff.mp failed)
  obtain ⟨row, isRow, -, within, validRaw⟩ :=
    tokenize_rows_before_error (fun _ member => (Text.infix_of_mem_splitOn member).2)
      (tokenize_eq_error_iff_readings.mp failed)
  obtain ⟨inBounds, -⟩ := List.getElem?_eq_some_iff.mp isLine
  have table := table_scanSource_of_error failed
  refine ⟨line, ?_, ?_, ?_⟩
  · rw [← Nat.sub_add_cancel positive]
    exact isLine
  · rw [valid, table]
  · rw [Text.take_lineStart isRow within, validRaw, table, ← take_readings (by omega), readings]

/-- In front of the point that spoils a number stands a valid number. -/
theorem tokenize_before_error_broken_fraction :
    tokenize "x\r\n12.5x".toList = .error { fault := .unknownToken ".".toList, position := ⟨2, 3⟩ } ∧
      tokenize "x\n12".toList = .ok (scanSource "x\r\n12.5x".toList).scanner.table ∧
      tokenize "x\r\n12".toList = .ok (scanSource "x\r\n12.5x".toList).scanner.table := by
  have above : Reads 1 "x".toList _ :=
    .piece (.word rfl (List.forall_mem_nil _) (Text.stopsRun_nil _)) .done
  have spoiled : Reads 1 "12.5x".toList _ :=
    @Reads.brokenFraction 1 'x' "12".toList "5".toList [] (by decide) (List.all_eq_true.mp rfl) (by decide)
      (List.all_eq_true.mp rfl) rfl rfl
  have lines : Text.lines "x\r\n12.5x".toList = ["x".toList, "12.5x".toList] := rfl
  have failed : tokenize "x\r\n12.5x".toList =
      .error { fault := .unknownToken ".".toList, position := ⟨2, 3⟩ } := by
    rw [tokenize_eq_error_iff, lines, List.map_cons, List.map_cons, above.eq_readLine, spoiled.eq_readLine]
    rfl
  obtain ⟨line, isLine, shown, raw⟩ := tokenize_before_error failed
  obtain rfl : "12.5x".toList = line := Option.some.inj isLine
  exact ⟨failed, shown, raw⟩

end Lexical
