/-
Module: Lexical.Proofs.WholeSources
Layer: Proofs
Purpose: A source that is given to the scanner as a single line. No piece runs over a line feed, but for a
  comment that two slashes begin, so behind each line feed the reading starts afresh
  (`Reads.append_lineFeed`), and reading the whole is reading line after line up to the first fault. What
  remains of the lines is the columns: they count from the start of the source.
Imports: Lexical.Proofs.Margins, Lexical.Proofs.Marks, Lexical.Proofs.Sessions
Main exports: Reading.followedBy, Reading.joined, Forced.append_lineFeed, Reads.append_lineFeed, reads_joined,
  upToFault, tokens_scanSource, Position.flattened, Scanner.scanLine_wholeSource
-/

import Lexical.Proofs.Margins
import Lexical.Proofs.Marks
import Lexical.Proofs.Sessions

namespace Lexical

/-! ### Over a line feed -/

section LineFeeds

variable {rest second : Text}

theorem Text.stopsRun_lineFeed (second : Text) : StopsRun (!isBlank ·) ('\n' :: second) :=
  stopsRun_cons.mpr rfl

/-- No comment reaches over a line feed. -/
theorem commentAt_of_append_lineFeed {text : Text} (fits : CommentAt (text ++ '\n' :: second)) :
    CommentAt text := by
  rcases fits with ⟨body, split, oneLine⟩ | ⟨body, behind, split, oneLine⟩
  · have inComment : '\n' ∈ '/' :: '/' :: body := by
      rw [← split]
      simp
    simp [oneLine] at inComment
  · have closes : text ++ '\n' :: second = ('/' :: '*' :: body ++ ['*']) ++ '/' :: behind := by
      rw [split]
      simp
    obtain ⟨more, rfl⟩ := Text.exists_in_front closes (by simp [oneLine]) (by decide)
    exact Or.inr ⟨body, more, by simp, oneLine⟩

/-- A piece is cut off whether the text ends behind its line or goes on with a line feed, unless it is a
comment to the end of the line. -/
theorem Forced.append_lineFeed {piece : Piece} (forced : Forced piece rest)
    (noLine : ∀ body, piece ≠ .comment ('/' :: '/' :: body)) (second : Text) :
    Forced piece (rest ++ '\n' :: second) := by
  apply forced.of_opensLike (Text.opensLike_append_tail (Text.stopsRun_lineFeed second) rest) noLine
  intro fits
  rw [← List.append_assoc] at fits
  exact commentAt_of_append_lineFeed fits

theorem Stuck.append_lineFeed {text : Text} {fault : Fault} (stuck : Stuck text fault) (second : Text) :
    Stuck (text ++ '\n' :: second) fault := by
  apply stuck.append_tail (Text.stopsRun_lineFeed second)
  intro mark quote body later split
  cases body with
  | nil =>
      have feed : '\n' = mark := (List.cons.inj split).1
      rw [← feed] at quote
      exact absurd quote (by decide)
  | cons c body =>
      rw [(List.cons.inj split).1]
      exact List.mem_cons_self

end LineFeeds

/-! ### Readings one after the other -/

namespace Reading

/-- The reading, and behind it the later one, unless the reading has a fault. -/
def followedBy (reading later : Reading) : Reading :=
  match reading.misreading? with
  | some _ => reading
  | none => { later with lexemes := reading.lexemes ++ later.lexemes }

/-- The readings one behind the other, up to the first fault. -/
def joined (readings : List Reading) : Reading :=
  readings.foldr followedBy { lexemes := [], misreading? := none }

theorem joined_cons (reading : Reading) (readings : List Reading) :
    joined (reading :: readings) = reading.followedBy (joined readings) := rfl

theorem followedBy_of_none {reading : Reading} (noFault : reading.misreading? = none) (later : Reading) :
    reading.followedBy later = { later with lexemes := reading.lexemes ++ later.lexemes } := by
  simp [followedBy, noFault]

theorem followedBy_of_some {reading : Reading} {misreading : Misreading}
    (misread : reading.misreading? = some misreading) (later : Reading) :
    reading.followedBy later = reading := by
  simp [followedBy, misread]

theorem joined_singleton (reading : Reading) : joined [reading] = reading := by
  cases misread : reading.misreading? with
  | some misreading => exact followedBy_of_some misread _
  | none => simp [joined, followedBy_of_none misread, ← misread]

/-- More lexemes in front of a reading stay in front of what follows it. -/
theorem prepend_followedBy (lexemes : List Lexeme) (reading later : Reading) :
    followedBy { reading with lexemes := lexemes ++ reading.lexemes } later =
      { reading.followedBy later with lexemes := lexemes ++ (reading.followedBy later).lexemes } := by
  cases misread : reading.misreading? with
  | some misreading => simp [followedBy, misread]
  | none => simp [followedBy, misread]

end Reading

/-- Behind a line that holds no two slashes, and a line feed, the reading goes on as if what follows stood
alone. -/
theorem Reads.append_lineFeed {column : Nat} {line second : Text} {reading later : Reading}
    (reads : Reads column line reading) (noSlashes : ¬ ['/', '/'] <:+: line)
    (onward : Reads (column + line.length + 1) second later) :
    Reads column (line ++ '\n' :: second) (reading.followedBy later) := by
  induction reads with
  | done => exact .piece (.blank rfl) onward
  | @piece column piece rest reading forced _ ih =>
      have noLine : ∀ body, piece ≠ .comment ('/' :: '/' :: body) := by
        rintro body rfl
        exact noSlashes ⟨[], body ++ rest, rfl⟩
      have noSlashesBehind : ¬ ['/', '/'] <:+: rest := fun inside =>
        noSlashes (inside.trans (List.suffix_append _ rest).isInfix)
      rw [List.length_append, ← Nat.add_assoc] at onward
      rw [Reading.prepend_followedBy, List.append_assoc]
      exact .piece (forced.append_lineFeed noLine second) (ih noSlashesBehind onward)
  | stuck stuck => exact .stuck (stuck.append_lineFeed second)
  | brokenFraction nonempty all nonemptyDecimals allDecimals wordAfter noDigit =>
      rw [List.append_assoc, List.cons_append, List.append_assoc, List.cons_append]
      exact .brokenFraction nonempty all nonemptyDecimals allDecimals wordAfter noDigit

/-- Rows joined by line feeds are read one after the other, each of them as far to the right as what stands
before it is long. -/
theorem reads_joined {indent : Nat → Nat} {rows : List Text} {number : Nat} (nonempty : rows ≠ [])
    (noSlashes : ∀ row ∈ rows, ¬ ['/', '/'] <:+: row)
    (widths : ∀ index row, rows[index]? = some row →
      indent (number + index + 1) = indent (number + index) + row.length + 1) :
    Reads (1 + indent number) (Text.joined ['\n'] rows)
      (Reading.joined (shiftedFrom indent number (rows.map readLine))) := by
  induction rows generalizing number with
  | nil => exact absurd rfl nonempty
  | cons row rows ih =>
      obtain ⟨here, further⟩ := List.forall_mem_cons.mp noSlashes
      have reads := (reads_readLine row).shifted (indent number)
      cases rows with
      | nil => simpa [Text.joined_singleton, shiftedFrom, Reading.joined_singleton] using reads
      | cons next more =>
          have onward := ih (List.cons_ne_nil _ _) further fun index other isRow => by
            have width := widths (index + 1) other isRow
            rwa [← Nat.add_assoc number, Nat.add_right_comm number] at width
          have width : indent (number + 1) = indent number + row.length + 1 := widths 0 row rfl
          have start : 1 + indent number + row.length + 1 = 1 + indent (number + 1) := by omega
          rw [Text.joined_cons _ _ (List.cons_ne_nil _ _), List.map_cons, shiftedFrom, Reading.joined_cons]
          exact reads.append_lineFeed here (by rwa [start])

/-! ### The tokens before an error -/

/-- The readings up to the first one with a fault, this one included. -/
def upToFault : List Reading → List Reading
  | [] => []
  | reading :: readings =>
      reading :: if reading.misreading?.isSome then [] else upToFault readings

/-- Columns make no difference to where the first fault is. -/
theorem upToFault_shifted (indent : Nat → Nat) (number : Nat) (readings : List Reading) :
    upToFault (shiftedFrom indent number readings) = shiftedFrom indent number (upToFault readings) := by
  induction readings generalizing number with
  | nil => rfl
  | cons reading readings ih =>
      cases misread : reading.misreading? with
      | some misreading => simp [upToFault, shiftedFrom, Reading.shifted, misread]
      | none => simp [upToFault, shiftedFrom, Reading.shifted, misread, ih]

/-- A run has collected the tokens of the lines up to the first one with a fault. -/
theorem Scanner.tokens_run (scanner : Scanner) (lines : List Text) :
    (scanner.run lines).scanner.table.tokens =
      scanner.table.tokens ++ tokensFrom (scanner.line + 1) (upToFault (lines.map readLine)) := by
  induction lines generalizing scanner with
  | nil => exact (List.append_nil _).symm
  | cons line lines ih =>
      rw [List.map_cons, upToFault]
      cases misread : (readLine line).misreading? with
      | some misreading =>
          rw [scanner.run_cons_of_some lines misread]
          simp [tokens_scanLine, added_scanLine, tokensFrom]
      | none =>
          rw [scanner.run_cons_of_none lines misread, ih, tokens_scanLine, line_scanLine, added_scanLine,
            List.append_assoc]
          rfl

theorem tokensFrom_upToFault_concat_nothing (number : Nat) (readings : List Reading) :
    tokensFrom number (upToFault (readings ++ [{ lexemes := [], misreading? := none }])) =
      tokensFrom number (upToFault readings) := by
  induction readings generalizing number with
  | nil => rfl
  | cons reading readings ih =>
      cases misread : reading.misreading? with
      | some misreading => simp [upToFault, misread]
      | none => simp [upToFault, misread, tokensFrom, ih]

/-- Scanning a source collects the tokens of the stretches between its line feeds, up to the first one with a
fault. -/
theorem tokens_scanSource (source : Text) :
    (scanSource source).scanner.table.tokens = tokensFrom 1 (upToFault (readings source)) := by
  have tokens : (scanSource source).scanner.table.tokens =
      tokensFrom 1 (upToFault (source.lines.map readLine)) := Scanner.start.tokens_run source.lines
  rw [tokens]
  rcases map_readLine_lines source with same | same
  · rw [same]
  · rw [← same, tokensFrom_upToFault_concat_nothing]

/-- Without an error the table of the scanner is the outcome. -/
theorem table_scanSource_of_ok {source : Text} {table : Table} (tokenized : tokenize source = .ok table) :
    (scanSource source).scanner.table = table := by
  rw [tokenize, Scanner.Run.result] at tokenized
  split at tokenized
  · exact absurd tokenized (by simp)
  · exact Except.ok.inj tokenized

/-! ### The whole as one line -/

/-- The position as it is where all lines count as the one with the number. -/
def Position.onLine (number : Nat) (position : Position) : Position :=
  { position with line := number }

/-- The lexemes of readings one behind the other are the tokens up to the first fault. -/
theorem map_lexemes_joined (number first : Nat) (readings : List Reading) :
    (Reading.joined readings).lexemes.map (·.toToken number) =
      (tokensFrom first (upToFault readings)).map (·.relocate (·.onLine number)) := by
  induction readings generalizing first with
  | nil => rfl
  | cons reading readings ih =>
      rw [Reading.joined_cons, upToFault]
      cases misread : reading.misreading? with
      | some misreading =>
          rw [Reading.followedBy_of_some misread]
          simp [tokensFrom, Lexeme.toToken, Token.relocate, Position.onLine]
      | none =>
          rw [Reading.followedBy_of_none misread, List.map_append, ih (first + 1)]
          simp [tokensFrom, Lexeme.toToken, Token.relocate, Position.onLine]

/-- Their fault is the first error. -/
theorem map_misreading_joined (number first : Nat) (readings : List Reading) :
    (Reading.joined readings).misreading?.map (·.toError number) =
      (firstError? first readings).map (·.relocate (·.onLine number)) := by
  induction readings generalizing first with
  | nil => rfl
  | cons reading readings ih =>
      rw [Reading.joined_cons, firstError?]
      cases misread : reading.misreading? with
      | some misreading =>
          rw [Reading.followedBy_of_some misread, misread]
          simp [Misreading.toError, LexicalError.relocate, Position.onLine]
      | none => simp [Reading.followedBy_of_none misread, ih (first + 1)]

/-- The number of characters before the line with the number, where the first line has number one. -/
def Text.startOfLine (text : Text) (number : Nat) : Nat :=
  text.lineStart (number - 1)

/-- The next line starts behind the line and its line feed. -/
theorem Text.startOfLine_succ {text row : Text} {index : Nat}
    (isRow : (List.splitOn '\n' text)[index]? = some row) :
    text.startOfLine (1 + index + 1) = text.startOfLine (1 + index) + row.length + 1 := by
  simp [startOfLine, lineStart, Nat.add_comm 1, List.take_add_one, isRow, Nat.add_assoc]

/-- The position in the text as it is where the whole text counts as the line with the number: its column is
counted from the start of the text, line feeds included. -/
def Position.flattened (text : Text) (number : Nat) (position : Position) : Position :=
  { line := number, column := position.column + text.startOfLine position.line }

/-- Read as one line, a text is the readings of its lines one behind the other. -/
theorem readLine_eq_joined {text : Text} (noSlashes : ¬ ['/', '/'] <:+: text) :
    readLine text = Reading.joined (shiftedFrom text.startOfLine 1 (readings text)) := by
  have noSlashesInRow : ∀ row ∈ List.splitOn '\n' text, ¬ ['/', '/'] <:+: row := fun row member inRow =>
    noSlashes (inRow.trans (Text.infix_of_mem_splitOn member).1)
  have reads := reads_joined (List.splitOn_ne_nil '\n' text) noSlashesInRow fun _ _ => Text.startOfLine_succ
  rw [Text.joined, List.intercalate_splitOn] at reads
  exact reads.eq_readLine

namespace Scanner

/-- A source in which no two slashes stand behind one another can be given to the scanner as a single line. It
adds the tokens that the source has line by line, all of them or those before the error, which is the same as
well; only the positions count from the start of the source. -/
theorem scanLine_wholeSource (scanner : Scanner) {text : Text} (noSlashes : ¬ ['/', '/'] <:+: text) :
    let step := scanner.scanLine text
    let move := Position.flattened text (scanner.line + 1)
    step.added = (scanSource text).scanner.table.tokens.map (·.relocate move) ∧
      match tokenize text with
      | .error error => step.error? = some (error.relocate move)
      | .ok table => step.error? = none ∧ table = (scanSource text).scanner.table := by
  intro step move
  have reading := readLine_eq_joined noSlashes
  have added : step.added = (scanSource text).scanner.table.tokens.map (·.relocate move) := by
    rw [tokens_scanSource, added_scanLine, reading, map_lexemes_joined _ 1, upToFault_shifted,
      tokensFrom_shifted, List.map_map]
    rfl
  have error : step.error? = (firstError? 1 (readings text)).map (·.relocate move) := by
    change (readLine text).misreading?.map _ = _
    rw [reading, map_misreading_joined _ 1, firstError?_shifted, Option.map_map]
    rfl
  refine ⟨added, ?_⟩
  cases outcome : tokenize text with
  | error first =>
      rw [error, tokenize_eq_error_iff_readings.mp outcome]
      rfl
  | ok table =>
      obtain ⟨noError, -⟩ := tokenize_eq_ok_iff_readings.mp outcome
      have succeeds : step.error? = none := by rw [error, noError, Option.map_none]
      exact ⟨succeeds, (table_scanSource_of_ok outcome).symm⟩

/-- A carriage return and a line feed count as two characters, and behind the fault nothing is read. -/
theorem scanLine_wholeSource_behind_return :
    let text := "a\r\nb'xy'\nc".toList
    ¬ ['/', '/'] <:+: text ∧
      tokenize text = .error { fault := .invalidCharLiteral "'xy'".toList, position := ⟨2, 2⟩ } ∧
        (start.scanLine text).added =
            [{ category := .identifier, literal := ['a'], position := ⟨1, 1⟩ },
              { category := .identifier, literal := ['b'], position := ⟨1, 4⟩ }] ∧
          (start.scanLine text).error? =
            some { fault := .invalidCharLiteral "'xy'".toList, position := ⟨1, 5⟩ } := by
  intro text
  have noSlashes : ¬ ['/', '/'] <:+: text := fun inside =>
    absurd (inside.subset List.mem_cons_self) (by decide)
  have first : Reads 1 ['a'] _ := .piece (.word rfl (List.forall_mem_nil _) (Text.stopsRun_nil _)) .done
  have tooLong : Stuck "'xy'".toList (.invalidCharLiteral "'xy'".toList) :=
    @Stuck.longChar "xy".toList [] (by decide) (by decide) (by decide)
  have word : Forced (.lexeme (wordCategory ['b']) ['b']) "'xy'".toList :=
    .word rfl (List.forall_mem_nil _) (Text.stopsRun_cons.mpr rfl)
  have second : Reads 1 "b'xy'".toList _ := .piece word (.stuck tooLong)
  have lines : Text.lines text = [['a'], "b'xy'".toList, ['c']] := rfl
  have failed : tokenize text =
      .error { fault := .invalidCharLiteral "'xy'".toList, position := ⟨2, 2⟩ } := by
    rw [tokenize_eq_error_iff, lines, List.map_cons, List.map_cons, first.eq_readLine, second.eq_readLine]
    rfl
  have tokens : (scanSource text).scanner.table.tokens =
      [{ category := .identifier, literal := ['a'], position := ⟨1, 1⟩ },
        { category := .identifier, literal := ['b'], position := ⟨2, 1⟩ }] := by
    rw [scanSource, tokens_run, lines, List.map_cons, List.map_cons, first.eq_readLine, second.eq_readLine]
    rfl
  obtain ⟨added, error⟩ := start.scanLine_wholeSource noSlashes
  rw [tokens] at added
  rw [failed] at error
  exact ⟨noSlashes, failed, added, error⟩

end Scanner

end Lexical
