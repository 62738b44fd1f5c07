/-
Module: Lexical.Proofs.Sessions
Layer: Proofs
Purpose: A scanner that is given line after line, whether or not a line has a fault. One line only adds its
  own tokens at the end of the table (`Scanner.tokens_scanLine`); by induction the table of a session is
  the tokens of its lines one after the other, each line numbered by its place in the session. What a line
  adds depends on its text alone, and stops where its fault stands.
Imports: Lexical.Proofs.LineMatches, Lexical.Proofs.SourceReading
Main exports: Scanner.after, Scanner.line_after, Scanner.tokens_after, Position.Before,
  pairwise_before_tokensFrom, Reads.ends_before_misreading, Scanner.error_scanLine, Scanner.session_spec
-/

import Lexical.Proofs.LineMatches
import Lexical.Proofs.SourceReading

namespace Lexical

namespace Scanner

/-- The scanner after a session: it was given the lines one after the other, and went on behind every
fault. -/
def after (scanner : Scanner) (lines : List Text) : Scanner :=
  lines.foldl (fun before line => (before.scanLine line).scanner) scanner

@[simp] theorem after_nil (scanner : Scanner) : scanner.after [] = scanner := rfl

@[simp] theorem after_cons (scanner : Scanner) (line : Text) (lines : List Text) :
    scanner.after (line :: lines) = (scanner.scanLine line).scanner.after lines := rfl

theorem after_append (scanner : Scanner) (earlier later : List Text) :
    scanner.after (earlier ++ later) = (scanner.after earlier).after later :=
  List.foldl_append

/-! ### One line -/

/-- A line counts as one line, even if it has a fault. -/
@[simp] theorem line_scanLine (scanner : Scanner) (line : Text) :
    (scanner.scanLine line).scanner.line = scanner.line + 1 := rfl

/-- The tokens of a line are its lexemes. -/
theorem added_scanLine (scanner : Scanner) (line : Text) :
    (scanner.scanLine line).added = (readLine line).lexemes.map (·.toToken (scanner.line + 1)) := rfl

/-- They are added at the end of the table. -/
theorem tokens_scanLine (scanner : Scanner) (line : Text) :
    (scanner.scanLine line).scanner.table.tokens =
      scanner.table.tokens ++ (scanner.scanLine line).added :=
  Table.tokens_append _ _

/-! ### Many lines -/

theorem line_after (scanner : Scanner) (lines : List Text) :
    (scanner.after lines).line = scanner.line + lines.length := by
  induction lines generalizing scanner with
  | nil => rfl
  | cons line lines ih =>
      rw [after_cons, ih, line_scanLine, List.length_cons]
      omega

/-- The table of a session holds what it held before and then the tokens of the lines. -/
theorem tokens_after (scanner : Scanner) (lines : List Text) :
    (scanner.after lines).table.tokens =
      scanner.table.tokens ++ tokensFrom (scanner.line + 1) (lines.map readLine) := by
  induction lines generalizing scanner with
  | nil => simp [tokensFrom]
  | cons line lines ih =>
      rw [after_cons, ih, tokens_scanLine, line_scanLine, added_scanLine, List.append_assoc]
      rfl

end Scanner

/-! ### The order of tokens -/

/-- The first position stands on an earlier line than the second, or farther left on the same one. -/
def Position.Before (first second : Position) : Prop :=
  first.line < second.line ∨ first.line = second.line ∧ first.column < second.column

/-- The tokens of lines come in the order of their positions, no two at the same one. -/
theorem pairwise_before_tokensFrom (number : Nat) (lines : List Text) :
    (tokensFrom number (lines.map readLine)).Pairwise fun first second =>
      first.position.Before second.position := by
  refine (pairwise_tokensFrom number lines).imp_of_mem fun {first second} member _ apart => ?_
  obtain ⟨index, reading, lexeme, found, inReading, rfl⟩ := mem_tokensFrom.mp member
  rw [List.getElem?_map, Option.map_eq_some_iff] at found
  obtain ⟨line, -, rfl⟩ := found
  have nonempty := List.length_pos_iff.mpr ((reads_readLine line).standsAt lexeme inReading).1
  refine apart.imp_right fun ⟨sameLine, ends⟩ => ⟨sameLine, ?_⟩
  have literal : (lexeme.toToken (number + index)).literal = lexeme.literal := rfl
  rw [literal] at ends
  omega

/-! ### Lines with a fault -/

/-- Every lexeme of a reading ends before its fault. -/
theorem Reads.ends_before_misreading {column : Nat} {text : Text} {reading : Reading}
    (reads : Reads column text reading) :
    ∀ misreading, reading.misreading? = some misreading → column ≤ misreading.column ∧
      ∀ lexeme ∈ reading.lexemes, lexeme.column + lexeme.literal.length ≤ misreading.column := by
  induction reads with
  | done => simp
  | @piece column piece rest later forced onward ih =>
      intro misreading fails
      obtain ⟨behind, ends⟩ := ih misreading fails
      refine ⟨by omega, fun lexeme member => ?_⟩
      rcases List.mem_append.mp member with here | further
      · obtain ⟨sameText, sameColumn⟩ := mem_lexemes here
        rw [sameText, sameColumn]
        exact behind
      · exact ends lexeme further
  | stuck =>
      intro misreading fails
      obtain rfl := Option.some.inj fails
      simp
  | brokenFraction =>
      intro misreading fails
      obtain rfl := Option.some.inj fails
      simp

namespace Scanner

/-- The error of a line has the number of the line, and what the line has added is what it offers before the
column of the error. -/
theorem error_scanLine (scanner : Scanner) (line : Text) {error : LexicalError}
    (fails : (scanner.scanLine line).error? = some error) :
    error.position.line = scanner.line + 1 ∧
      (scanner.scanLine line).added =
        ((Grammar.rules.offered line).filter (·.column < error.position.column)).map
          (·.toToken (scanner.line + 1)) ∧
      ∀ token ∈ (scanner.scanLine line).added,
        token.position.column + token.literal.length ≤ error.position.column := by
  obtain ⟨misreading, misread, rfl⟩ := Option.map_eq_some_iff.mp fails
  refine ⟨rfl, ?_, fun token member => ?_⟩
  · rw [added_scanLine, (lexemes_readLine line).2 misreading misread]
    rfl
  · rw [added_scanLine] at member
    obtain ⟨lexeme, inReading, rfl⟩ := List.mem_map.mp member
    exact ((reads_readLine line).ends_before_misreading misreading misread).2 lexeme inReading

/-- A line without an error has added all that it offers. -/
theorem added_of_no_error (scanner : Scanner) (line : Text)
    (succeeds : (scanner.scanLine line).error? = none) :
    (scanner.scanLine line).added =
      (Grammar.rules.offered line).map (·.toToken (scanner.line + 1)) := by
  rw [added_scanLine, (lexemes_readLine line).1 (Option.map_eq_none_iff.mp succeeds)]

/-- The lines of a session do not get into each other's way. The table is the tokens of the lines one after
the other, each token with the number of its line in the session and in the order of positions. A line
adds its own tokens behind those that are there, which depend on nothing but its text and its number, and
no later line changes them. A line without an error adds all that it offers; one with an error, which has
the number of the line, adds exactly what it offers before the column of the error. -/
theorem session_spec :
    (∀ lines, (start.after lines).table.tokens = tokensFrom 1 (lines.map readLine) ∧
        (start.after lines).table.tokens.Pairwise fun first second =>
          first.position.Before second.position) ∧
      ∀ earlier line later,
        let before := start.after earlier
        let step := before.scanLine line
        let number := earlier.length + 1
        step.added = (readLine line).lexemes.map (·.toToken number) ∧
          step.scanner.table.tokens = before.table.tokens ++ step.added ∧
          step.scanner.table.tokens <+: (start.after (earlier ++ line :: later)).table.tokens ∧
          (step.error? = none → step.added = (Grammar.rules.offered line).map (·.toToken number)) ∧
          ∀ error, step.error? = some error →
            error.position.line = number ∧
              step.added =
                ((Grammar.rules.offered line).filter (·.column < error.position.column)).map
                  (·.toToken number) ∧
              ∀ token ∈ step.added,
                token.position.column + token.literal.length ≤ error.position.column := by
  constructor
  · intro lines
    have tokens : (start.after lines).table.tokens = tokensFrom 1 (lines.map readLine) :=
      start.tokens_after lines
    exact ⟨tokens, tokens ▸ pairwise_before_tokensFrom 1 lines⟩
  · intro earlier line later before step number
    have numbered : before.line + 1 = number := by
      have counted : before.line = 0 + earlier.length := start.line_after earlier
      rw [counted, Nat.zero_add]
    have kept : step.scanner.table.tokens <+: (start.after (earlier ++ line :: later)).table.tokens := by
      rw [after_append, after_cons, tokens_after]
      exact List.prefix_append _ _
    rw [← numbered]
    exact ⟨before.added_scanLine line, before.tokens_scanLine line, kept, before.added_of_no_error line,
      fun error fails => before.error_scanLine line fails⟩

end Scanner

end Lexical
