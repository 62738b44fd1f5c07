/-
Module: Lexical.Proofs.SourceReading
Layer: Proofs
Purpose: The reading of a whole source. A run of the scanner comes down to the readings of the single
  lines: its tokens are those of the lines one after the other (`tokensFrom`), and its error is that of the
  first line with a fault (`firstError?`). On a line, the lexemes stand where their columns say, follow one
  another without overlapping, and leave out only blanks and comments.
Imports: Lexical.Scanner, Lexical.Proofs.LineReading
Main exports: tokensFrom, firstError?, tokenize_eq_ok_iff, tokenize_eq_error_iff, Text.StandsAt,
  Reads.standsAt, Reads.pairwise, Reads.accountsFor, tokenize_accountsFor
-/

import Lexical.Scanner
import Lexical.Proofs.LineReading

namespace Lexical

open Grammar

/-! ### Runs over lines -/

/-- The tokens of lines that are numbered from the given number on. -/
def tokensFrom : Nat → List Reading → List Token
  | _, [] => []
  | number, reading :: readings =>
      reading.lexemes.map (·.toToken number) ++ tokensFrom (number + 1) readings

/-- The error of the first of the lines that has one. -/
def firstError? : Nat → List Reading → Option LexicalError
  | _, [] => none
  | number, reading :: readings =>
      (reading.misreading?.map (·.toError number)).or (firstError? (number + 1) readings)

/-- A line without a fault is logged, and the run goes on behind it. -/
theorem Scanner.run_cons_of_none (scanner : Scanner) {line : Text} (lines : List Text)
    (noFault : (readLine line).misreading? = none) :
    scanner.run (line :: lines) =
      { (scanner.scanLine line).scanner.run lines with
        events := .scannedLine (scanner.line + 1) (readLine line).lexemes.length ::
          ((scanner.scanLine line).scanner.run lines).events } := by
  have goesOn : (scanner.scanLine line).error? = none := by
    rw [Scanner.scanLine, noFault]
    rfl
  have added : (scanner.scanLine line).added.length = (readLine line).lexemes.length := List.length_map _
  rw [Scanner.run, goesOn, added]
  rfl

/-- A line with a fault ends the run. -/
theorem Scanner.run_cons_of_some (scanner : Scanner) {line : Text} {misreading : Misreading}
    (lines : List Text) (misread : (readLine line).misreading? = some misreading) :
    scanner.run (line :: lines) =
      { scanner := (scanner.scanLine line).scanner
        error? := some (misreading.toError (scanner.line + 1))
        events := [.rejected (misreading.toError (scanner.line + 1))] } := by
  have stops : (scanner.scanLine line).error? = some (misreading.toError (scanner.line + 1)) := by
    rw [Scanner.scanLine, misread]
    rfl
  rw [Scanner.run, stops]

/-- A run ends at the first error, and without one it has collected the tokens of all lines. -/
theorem Scanner.run_spec (scanner : Scanner) (lines : List Text) :
    (scanner.run lines).error? = firstError? (scanner.line + 1) (lines.map readLine) ∧
      (firstError? (scanner.line + 1) (lines.map readLine) = none →
        (scanner.run lines).scanner.table.tokens =
          scanner.table.tokens ++ tokensFrom (scanner.line + 1) (lines.map readLine)) := by
  induction lines generalizing scanner with
  | nil => exact ⟨rfl, fun _ => (List.append_nil _).symm⟩
  | cons line lines ih =>
      rw [List.map_cons, firstError?]
      cases misread : (readLine line).misreading? with
      | some misreading => simp [scanner.run_cons_of_some lines misread]
      | none =>
          obtain ⟨sameError, collects⟩ := ih (scanner.scanLine line).scanner
          rw [scanner.run_cons_of_none lines misread, Option.map_none, Option.none_or]
          refine ⟨sameError, fun noError => ?_⟩
          rw [collects noError, tokensFrom, ← List.append_assoc]
          exact congrArg (· ++ _) (Table.tokens_append _ _)

/-- A source is tokenized exactly if no line has an error, and its tokens are those of its lines. -/
theorem tokenize_eq_ok_iff {source : Text} {table : Table} :
    tokenize source = .ok table ↔
      firstError? 1 (source.lines.map readLine) = none ∧
        table.tokens = tokensFrom 1 (source.lines.map readLine) := by
  obtain ⟨sameError, collects⟩ := Scanner.start.run_spec source.lines
  have firstLine : Scanner.start.line + 1 = 1 := rfl
  rw [firstLine] at sameError collects
  rw [tokenize, scanSource, Scanner.Run.result, sameError]
  cases outcome : firstError? 1 (source.lines.map readLine) with
  | some error => simp
  | none =>
      have tokens := collects outcome
      rw [Scanner.start, Table.tokens_empty, List.nil_append] at tokens
      simp only [Except.ok.injEq, true_and]
      constructor
      · rintro rfl
        exact tokens
      · intro same
        exact Table.eq_of_tokens_eq (tokens.trans same.symm)

/-- Otherwise the first error of a line is the error of the source. -/
theorem tokenize_eq_error_iff {source : Text} {error : LexicalError} :
    tokenize source = .error error ↔ firstError? 1 (source.lines.map readLine) = some error := by
  obtain ⟨sameError, -⟩ := Scanner.start.run_spec source.lines
  have firstLine : Scanner.start.line + 1 = 1 := rfl
  rw [firstLine] at sameError
  rw [tokenize, scanSource, Scanner.Run.result, sameError]
  cases firstError? 1 (source.lines.map readLine) <;> simp

/-- Without an error every line is read to its end. -/
theorem firstError?_eq_none_iff {number : Nat} {readings : List Reading} :
    firstError? number readings = none ↔ ∀ reading ∈ readings, reading.misreading? = none := by
  induction readings generalizing number with
  | nil => simp [firstError?]
  | cons reading readings ih =>
      rw [firstError?, Option.or_eq_none_iff, Option.map_eq_none_iff, ih, List.forall_mem_cons]

/-- The tokens are the lexemes of the lines, with the numbers of their lines. -/
theorem mem_tokensFrom {number : Nat} {readings : List Reading} {token : Token} :
    token ∈ tokensFrom number readings ↔
      ∃ (index : Nat) (reading : Reading) (lexeme : Lexeme), readings[index]? = some reading ∧
        lexeme ∈ reading.lexemes ∧ token = lexeme.toToken (number + index) := by
  induction readings generalizing number with
  | nil => simp [tokensFrom]
  | cons first readings ih =>
      rw [tokensFrom, List.mem_append, List.mem_map, ih]
      constructor
      · rintro (⟨lexeme, member, rfl⟩ | ⟨index, reading, lexeme, found, member, rfl⟩)
        · exact ⟨0, first, lexeme, rfl, member, rfl⟩
        · refine ⟨index + 1, reading, lexeme, found, member, ?_⟩
          rw [Nat.add_right_comm, Nat.add_assoc]
      · rintro ⟨index, reading, lexeme, found, member, rfl⟩
        cases index with
        | zero =>
            obtain rfl : first = reading := Option.some.inj found
            exact Or.inl ⟨lexeme, member, rfl⟩
        | succ index =>
            refine Or.inr ⟨index, reading, lexeme, found, member, ?_⟩
            rw [Nat.add_right_comm, Nat.add_assoc]

theorem mem_tokensFrom_readLine {number : Nat} {lines : List Text} {token : Token} :
    token ∈ tokensFrom number (lines.map readLine) ↔
      ∃ index line lexeme, lines[index]? = some line ∧ lexeme ∈ (readLine line).lexemes ∧
        token = lexeme.toToken (number + index) := by
  rw [mem_tokensFrom]
  simp only [List.getElem?_map, Option.map_eq_some_iff]
  constructor
  · rintro ⟨index, _, lexeme, ⟨line, isLine, rfl⟩, member, same⟩
    exact ⟨index, line, lexeme, isLine, member, same⟩
  · rintro ⟨index, line, lexeme, isLine, member, same⟩
    exact ⟨index, _, lexeme, ⟨line, isLine, rfl⟩, member, same⟩

/-! ### Where lexemes stand -/

/-- The literal stands in the line, and its first character has the column. -/
def Text.StandsAt (literal : Text) (column : Nat) (line : Text) : Prop :=
  ∃ before after, line = before ++ literal ++ after ∧ column = before.length + 1

/-- A lexeme of a piece is the piece, and stands where it begins. -/
theorem piece_of_mem_lexemes {piece : Piece} {column : Nat} {lexeme : Lexeme}
    (member : lexeme ∈ piece.lexemes column) :
    piece = .lexeme lexeme.category lexeme.literal ∧ lexeme.column = column := by
  cases piece with
  | blank | comment => exact absurd member List.not_mem_nil
  | lexeme category literal =>
      obtain rfl := List.mem_singleton.mp member
      exact ⟨rfl, rfl⟩

theorem mem_lexemes {piece : Piece} {column : Nat} {lexeme : Lexeme}
    (member : lexeme ∈ piece.lexemes column) :
    lexeme.literal = piece.text ∧ lexeme.column = column := by
  obtain ⟨rfl, sameColumn⟩ := piece_of_mem_lexemes member
  exact ⟨rfl, sameColumn⟩

/-- Every lexeme of a reading stands where its column says, and is not empty. -/
theorem Reads.standsAt {column : Nat} {text : Text} {reading : Reading}
    (reads : Reads column text reading) :
    ∀ lexeme ∈ reading.lexemes, lexeme.literal ≠ [] ∧
      ∃ before after, text = before ++ lexeme.literal ++ after ∧
        lexeme.column = column + before.length := by
  induction reads with
  | done | stuck => simp
  | @piece column piece rest later forced onward ih =>
      intro lexeme member
      rcases List.mem_append.mp member with here | further
      · obtain ⟨sameText, sameColumn⟩ := mem_lexemes here
        rw [sameText]
        exact ⟨forced.text_ne_nil, [], rest, rfl, sameColumn⟩
      · obtain ⟨nonempty, before, after, rfl, columnEq⟩ := ih lexeme further
        refine ⟨nonempty, piece.text ++ before, after, by simp [List.append_assoc], ?_⟩
        rw [columnEq, List.length_append, Nat.add_assoc]
  | @brokenFraction column c digits decimals rest nonempty =>
      intro lexeme member
      obtain rfl := List.mem_singleton.mp member
      exact ⟨nonempty, [], _, rfl, rfl⟩

/-- The lexemes of a reading follow one another without overlapping. -/
theorem Reads.pairwise {column : Nat} {text : Text} {reading : Reading}
    (reads : Reads column text reading) :
    reading.lexemes.Pairwise fun first second =>
      first.column + first.literal.length ≤ second.column := by
  induction reads with
  | done | stuck => exact .nil
  | brokenFraction => exact List.pairwise_singleton _ _
  | @piece column piece rest later forced onward ih =>
      refine List.pairwise_append.mpr ⟨?_, ih, fun first here second further => ?_⟩
      · cases piece with
        | blank | comment => exact .nil
        | lexeme => exact List.pairwise_singleton _ _
      · obtain ⟨sameText, sameColumn⟩ := mem_lexemes here
        obtain ⟨-, before, after, -, columnEq⟩ := onward.standsAt second further
        rw [sameText, sameColumn, columnEq]
        exact Nat.le_add_right _ _

/-! ### What stands between the lexemes -/

section Gaps

variable {place : Place} {rest : Text}

/-- What the scanner finds behind a piece it also finds from before it, unless only blanks are left. -/
theorem Forced.mem_segmentsFrom {piece : Piece} (forced : Forced piece rest) (fresh : place.Fresh)
    (split : place.rest = piece.text ++ rest) {segment : Segment Rule}
    (member : segment ∈ segmentsFrom rules.firstMatch? (place.past piece.text)) :
    segment ∈ segmentsFrom rules.firstMatch? place ∨ ∀ c ∈ place.rest, Text.isBlank c = true := by
  by_cases someBlank : ∃ d, piece = .blank d
  · obtain ⟨d, rfl⟩ := someBlank
    cases forced with
    | blank blank =>
        have splitBlank : place.rest = d :: rest := split
        have finds : firstMatch? rules place = _ := finds_of_isBlank splitBlank blank
        split at finds
        case isTrue blankLine =>
          rw [splitBlank]
          exact Or.inr (List.all_eq_true.mp blankLine.2)
        case isFalse =>
          rw [segmentsFrom_gap finds splitBlank]
          exact Or.inl (List.mem_cons_of_mem _ member)
  · obtain ⟨rule, -, finds⟩ := forced.finds fresh split fun d same => someBlank ⟨d, same⟩
    rw [segmentsFrom_hit finds split forced.text_ne_nil]
    exact Or.inl (List.mem_cons_of_mem _ member)

/-- Every character of a text that is read to its end is a blank, or stands in a lexeme or in a comment. -/
theorem Reads.accountsFor {column : Nat} {text : Text} {reading : Reading}
    (reads : Reads column text reading) (noFault : reading.misreading? = none) (fresh : place.Fresh)
    (split : place.rest = text) {index : Nat} {c : Char} (stands : text[index]? = some c) :
    (∃ lexeme ∈ reading.lexemes, lexeme.column ≤ column + index ∧
        column + index < lexeme.column + lexeme.literal.length) ∨
      Text.isBlank c = true ∨
        ∃ first last, Segment.hit commentRule first last ∈ segmentsFrom rules.firstMatch? place ∧
          first.offset ≤ place.offset + index ∧ place.offset + index < last.offset := by
  induction reads generalizing place index with
  | done => simp at stands
  | stuck => simp at noFault
  | brokenFraction => simp at noFault
  | @piece column piece rest later forced onward ih =>
      by_cases inside : index < piece.text.length
      · rw [List.getElem?_append_left inside] at stands
        cases piece with
        | blank d =>
            cases forced with
            | blank blank =>
                obtain rfl : c = d := List.mem_singleton.mp (List.mem_of_getElem? stands)
                exact Or.inr (Or.inl blank)
        | comment comment =>
            have finds := forced.finds_comment split
            refine Or.inr (Or.inr ⟨place, place.past comment, ?_, Nat.le_add_right _ _, ?_⟩)
            · rw [segmentsFrom_hit finds split forced.text_ne_nil]
              exact List.mem_cons_self
            · rw [Place.offset_past]
              exact Nat.add_lt_add_left inside _
        | lexeme category literal =>
            refine Or.inl ⟨{ category, literal, column }, List.mem_append_left _ ?_, ?_, ?_⟩
            · exact List.mem_singleton.mpr rfl
            · exact Nat.le_add_right _ _
            · exact Nat.add_lt_add_left inside _
      · have length : (piece.text.length + (index - piece.text.length)) = index := by omega
        rw [List.getElem?_append_right (by omega)] at stands
        have further := ih noFault (forced.fresh_past split) (Place.rest_past split) stands
        rw [Nat.add_assoc, length, Place.offset_past, Nat.add_assoc, length] at further
        rcases further with ⟨lexeme, member, within⟩ | blank | ⟨first, last, member, within⟩
        · exact Or.inl ⟨lexeme, List.mem_append_right _ member, within⟩
        · exact Or.inr (Or.inl blank)
        · rcases forced.mem_segmentsFrom fresh split member with found | allBlank
          · exact Or.inr (Or.inr ⟨first, last, found, within⟩)
          · refine Or.inr (Or.inl (allBlank c ?_))
            rw [split]
            exact List.mem_append_right _ (List.mem_of_getElem? stands)

end Gaps

/-! ### The tokens of a source -/

/-- The lines of a tokenized source are read to their ends. -/
theorem tokenize_noFault {source : Text} {table : Table} (tokenized : tokenize source = .ok table) :
    ∀ line ∈ source.lines, (readLine line).misreading? = none :=
  List.forall_mem_map.mp (firstError?_eq_none_iff.mp (tokenize_eq_ok_iff.mp tokenized).1)

/-- A token of a source is a lexeme of its line. -/
theorem mem_tokenize {source : Text} {table : Table} (tokenized : tokenize source = .ok table)
    {token : Token} :
    token ∈ table.tokens ↔
      ∃ index line lexeme, source.line? (index + 1) = some line ∧
        lexeme ∈ (readLine line).lexemes ∧ token = lexeme.toToken (index + 1) := by
  rw [(tokenize_eq_ok_iff.mp tokenized).2, mem_tokensFrom_readLine]
  simp only [Nat.add_comm 1]
  exact Iff.rfl

/-- A source of one line that is cut into pieces has the tokens of these. -/
theorem tokenize_of_cut {source line : Text} {pieces : List Piece} (oneLine : source.lines = [line])
    (cut : Cut line pieces) :
    tokenize source =
      .ok { entries := ((lexemesFrom 1 pieces).map (·.toToken 1)).toArray } := by
  rw [tokenize_eq_ok_iff, oneLine]
  simp [firstError?, tokensFrom, (cut.reads 1).eq_readLine, Table.tokens]

/-- A source of one line that has a fault has this as its error. -/
theorem tokenize_of_misread {source line : Text} {reading : Reading} {misreading : Misreading}
    (oneLine : source.lines = [line]) (reads : Reads 1 line reading)
    (misread : reading.misreading? = some misreading) :
    tokenize source = .error (misreading.toError 1) := by
  rw [tokenize_eq_error_iff, oneLine, List.map_singleton, reads.eq_readLine, firstError?, misread]
  rfl

/-- The tokens of lines come in the order of their lines, and on a line none begins before the one before
it has ended. -/
theorem pairwise_tokensFrom (number : Nat) (lines : List Text) :
    (tokensFrom number (lines.map readLine)).Pairwise fun first second =>
      first.position.line < second.position.line ∨
        first.position.line = second.position.line ∧
          first.position.column + first.literal.length ≤ second.position.column := by
  induction lines generalizing number with
  | nil => exact .nil
  | cons line lines ih =>
      refine List.pairwise_append.mpr ⟨?_, ih (number + 1), fun first here second further => ?_⟩
      · rw [List.pairwise_map]
        exact (reads_readLine line).pairwise.imp fun apart => Or.inr ⟨rfl, apart⟩
      · obtain ⟨lexeme, -, rfl⟩ := List.mem_map.mp here
        obtain ⟨index, -, later, -, -, rfl⟩ := mem_tokensFrom.mp further
        apply Or.inl
        change number < number + 1 + index
        omega

/-- Nothing of a tokenized source is dropped: every token stands where its position says, the tokens come
in the order of their positions and do not overlap, and what they leave out are blanks and comments. -/
theorem tokenize_accountsFor {source : Text} {table : Table} (tokenized : tokenize source = .ok table) :
    (∀ token ∈ table.tokens, ∃ line, source.line? token.position.line = some line ∧
        token.literal.StandsAt token.position.column line) ∧
      (table.tokens.Pairwise fun first second =>
        first.position.line < second.position.line ∨
          first.position.line = second.position.line ∧
            first.position.column < second.position.column ∧
              first.position.column + first.literal.length ≤ second.position.column) ∧
      ∀ number text index c, source.line? number = some text → text[index]? = some c →
        (∃ token ∈ table.tokens, token.position.line = number ∧
            token.position.column ≤ index + 1 ∧
              index + 1 < token.position.column + token.literal.length) ∨
          Text.isBlank c = true ∨
            ∃ first last, Segment.hit commentRule first last ∈ segments rules.firstMatch? text ∧
              first.offset ≤ index ∧ index < last.offset := by
  refine ⟨fun token member => ?_, ?_, fun number line index c isLine stands => ?_⟩
  · obtain ⟨index, line, lexeme, isLine, inLine, rfl⟩ := (mem_tokenize tokenized).mp member
    obtain ⟨-, before, after, split, columnEq⟩ := (reads_readLine line).standsAt lexeme inLine
    exact ⟨line, isLine, before, after, split, columnEq.trans (Nat.add_comm _ _)⟩
  · have ordered := pairwise_tokensFrom 1 source.lines
    rw [← (tokenize_eq_ok_iff.mp tokenized).2] at ordered
    refine ordered.imp_of_mem fun {first second} member _ apart => ?_
    obtain ⟨index, line, lexeme, -, inLine, rfl⟩ := (mem_tokenize tokenized).mp member
    have nonempty := List.length_pos_iff.mpr ((reads_readLine line).standsAt lexeme inLine).1
    have length : (lexeme.toToken (index + 1)).literal.length = lexeme.literal.length := rfl
    omega
  · cases number with
    | zero => exact absurd isLine (by simp [Text.line?])
    | succ lineIndex =>
        have noFault := tokenize_noFault tokenized line (List.mem_of_getElem? isLine)
        have accounted := (reads_readLine line).accountsFor noFault (Place.fresh_start line) rfl stands
        rw [Nat.add_comm 1 index] at accounted
        have startOffset : (Place.start line).offset + index = index := Nat.zero_add index
        rw [startOffset] at accounted
        refine accounted.imp_left fun ⟨lexeme, member, within⟩ => ?_
        refine ⟨lexeme.toToken (lineIndex + 1), ?_, rfl, within⟩
        exact (mem_tokenize tokenized).mpr ⟨lineIndex, line, lexeme, isLine, member, rfl⟩

/-- A word with a comment behind it. -/
theorem tokenize_accountsFor_word_and_comment :
    tokenize "a/**/".toList =
        .ok { entries := #[{ category := .identifier, literal := ['a'], position := ⟨1, 1⟩ }] } ∧
      ∀ index c, "a/**/".toList[index]? = some c →
        (∃ token ∈ [({ category := .identifier, literal := ['a'], position := ⟨1, 1⟩ } : Token)],
          token.position.line = 1 ∧ token.position.column ≤ index + 1 ∧
            index + 1 < token.position.column + token.literal.length) ∨
          Text.isBlank c = true ∨
            ∃ first last,
              Segment.hit commentRule first last ∈ segments rules.firstMatch? "a/**/".toList ∧
                first.offset ≤ index ∧ index < last.offset := by
  have notKeyword : wordCategory ['a'] = .identifier := by decide
  have word : Forced (.lexeme (wordCategory ['a']) ['a']) "/**/".toList :=
    .word rfl (List.forall_mem_nil _) (Text.stopsRun_cons.mpr rfl)
  rw [notKeyword] at word
  have comment : Forced (.comment "/**/".toList) [] :=
    @Forced.blockComment [] [] (by decide) (by decide)
  have cut : Cut "a/**/".toList [.lexeme .identifier ['a'], .comment "/**/".toList] :=
    .cons word (.cons comment .nil)
  have tokenized : tokenize "a/**/".toList =
      .ok { entries := #[{ category := .identifier, literal := ['a'], position := ⟨1, 1⟩ }] } :=
    tokenize_of_cut rfl cut
  exact ⟨tokenized, fun index c => (tokenize_accountsFor tokenized).2.2 1 _ index c rfl⟩

end Lexical
