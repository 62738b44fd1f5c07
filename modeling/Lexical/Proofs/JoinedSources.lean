/-
Module: Lexical.Proofs.JoinedSources
Layer: Proofs
Purpose: Tokenizing as a function of the readings of single lines, and what follows for a source that is put
  together from two. The outcome of readings is their first error or else their tokens (`outcomeFrom`), and
  tokenizing a source is the outcome of the readings of its stretches (`tokenize_eq_outcomeFrom`). A line
  feed between two sources cuts their stretches apart, so the second source is tokenized as if it stood
  alone, only farther down.
Imports: Lexical.Proofs.BlankTails
Main exports: Token.relocate, Table.relocate, LexicalError.relocate, Position.below, outcomeFrom,
  outcomeFrom_relocate, tokenize_eq_outcomeFrom, outcomeFrom_append, outcomeFrom_add, tokenize_append_lineFeed
-/

import Lexical.Proofs.BlankTails

namespace Lexical

/-! ### Moving tokens and errors -/

/-- The token at another position. -/
def Token.relocate (move : Position → Position) (token : Token) : Token :=
  { token with position := move token.position }

/-- The error at another position. -/
def LexicalError.relocate (move : Position → Position) (error : LexicalError) : LexicalError :=
  { error with position := move error.position }

/-- The table with its tokens at other positions. -/
def Table.relocate (move : Position → Position) (table : Table) : Table :=
  { entries := table.entries.map (·.relocate move) }

/-- The position so many lines farther down. -/
def Position.below (lines : Nat) (position : Position) : Position :=
  { position with line := position.line + lines }

/-! ### The outcome of readings -/

/-- What the readings of lines come to that are numbered from the given number on: the first error, or the
tokens of all lines. -/
def outcomeFrom (number : Nat) (readings : List Reading) : Except LexicalError Table :=
  match firstError? number readings with
  | some error => .error error
  | none => .ok { entries := (tokensFrom number readings).toArray }

theorem outcomeFrom_of_error {number : Nat} {readings : List Reading} {error : LexicalError}
    (fails : firstError? number readings = some error) : outcomeFrom number readings = .error error := by
  simp [outcomeFrom, fails]

theorem outcomeFrom_of_none {number : Nat} {readings : List Reading}
    (succeeds : firstError? number readings = none) :
    outcomeFrom number readings = .ok { entries := (tokensFrom number readings).toArray } := by
  simp [outcomeFrom, succeeds]

/-- Readings with the same tokens and the same first error, but at other positions, have the same outcome
there. -/
theorem outcomeFrom_relocate {move : Position → Position} {number otherNumber : Nat}
    {readings others : List Reading}
    (tokens : tokensFrom otherNumber others = (tokensFrom number readings).map (·.relocate move))
    (error : firstError? otherNumber others = (firstError? number readings).map (·.relocate move)) :
    outcomeFrom otherNumber others =
      match outcomeFrom number readings with
      | .error error => .error (error.relocate move)
      | .ok table => .ok (table.relocate move) := by
  cases outcome : firstError? number readings with
  | some first =>
      have fails : firstError? otherNumber others = some (first.relocate move) := by
        rw [error, outcome]
        rfl
      simp [outcomeFrom_of_error outcome, outcomeFrom_of_error fails]
  | none =>
      have succeeds : firstError? otherNumber others = none := by
        rw [error, outcome]
        rfl
      simp [outcomeFrom_of_none outcome, outcomeFrom_of_none succeeds, tokens, Table.relocate]

/-- Tokenizing a source comes down to the readings of the stretches between its line feeds. -/
theorem tokenize_eq_outcomeFrom (source : Text) : tokenize source = outcomeFrom 1 (readings source) := by
  cases outcome : firstError? 1 (readings source) with
  | some error =>
      rw [outcomeFrom_of_error outcome]
      exact tokenize_eq_error_iff_readings.mpr outcome
  | none =>
      rw [outcomeFrom_of_none outcome]
      exact tokenize_eq_ok_iff_readings.mpr ⟨outcome, by simp [Table.tokens]⟩

/-! ### Readings one after the other -/

theorem tokensFrom_append (number : Nat) (first second : List Reading) :
    tokensFrom number (first ++ second) =
      tokensFrom number first ++ tokensFrom (number + first.length) second := by
  induction first generalizing number with
  | nil => simp [tokensFrom]
  | cons reading first ih => simp [tokensFrom, ih, Nat.add_assoc, Nat.add_comm 1]

theorem firstError?_append (number : Nat) (first second : List Reading) :
    firstError? number (first ++ second) =
      (firstError? number first).or (firstError? (number + first.length) second) := by
  induction first generalizing number with
  | nil => simp [firstError?]
  | cons reading first ih =>
      simp [firstError?, ih, Option.or_assoc, Nat.add_assoc, Nat.add_comm 1]

/-- The outcome of the readings in front decides, unless they are without an error. -/
theorem outcomeFrom_append (number : Nat) (first second : List Reading) :
    outcomeFrom number (first ++ second) =
      match outcomeFrom number first with
      | .error error => .error error
      | .ok table =>
          match outcomeFrom (number + first.length) second with
          | .error error => .error error
          | .ok later => .ok (table.append later.tokens) := by
  cases ofFirst : firstError? number first with
  | some error =>
      have fails : firstError? number (first ++ second) = some error := by
        simp [firstError?_append, ofFirst]
      simp [outcomeFrom_of_error ofFirst, outcomeFrom_of_error fails]
  | none =>
      have onward : firstError? number (first ++ second) = firstError? (number + first.length) second := by
        simp [firstError?_append, ofFirst]
      cases ofSecond : firstError? (number + first.length) second with
      | some error =>
          rw [ofSecond] at onward
          simp [outcomeFrom_of_none ofFirst, outcomeFrom_of_error ofSecond, outcomeFrom_of_error onward]
      | none =>
          rw [ofSecond] at onward
          rw [outcomeFrom_of_none ofFirst, outcomeFrom_of_none ofSecond, outcomeFrom_of_none onward]
          simp [tokensFrom_append, Table.append, Table.tokens]

/-- The numbers of the lines matter for nothing but the lines of the positions. -/
theorem tokensFrom_add (number lines : Nat) (readings : List Reading) :
    tokensFrom (number + lines) readings =
      (tokensFrom number readings).map (·.relocate (·.below lines)) := by
  induction readings generalizing number with
  | nil => rfl
  | cons reading readings ih =>
      simp [tokensFrom, Nat.add_right_comm number lines 1, ih, Lexeme.toToken, Token.relocate,
        Position.below]

theorem firstError?_add (number lines : Nat) (readings : List Reading) :
    firstError? (number + lines) readings =
      (firstError? number readings).map (·.relocate (·.below lines)) := by
  induction readings generalizing number with
  | nil => rfl
  | cons reading readings ih =>
      cases ofLine : reading.misreading? with
      | none => simp [firstError?, ofLine, Nat.add_right_comm number lines 1, ih]
      | some misreading =>
          simp [firstError?, ofLine, Misreading.toError, LexicalError.relocate, Position.below]

theorem outcomeFrom_add (number lines : Nat) (readings : List Reading) :
    outcomeFrom (number + lines) readings =
      match outcomeFrom number readings with
      | .error error => .error (error.relocate (·.below lines))
      | .ok table => .ok (table.relocate (·.below lines)) :=
  outcomeFrom_relocate (tokensFrom_add number lines readings) (firstError?_add number lines readings)

/-! ### Sources one after the other -/

theorem readings_append_lineFeed (first second : Text) :
    readings (first ++ '\n' :: second) = readings first ++ readings second := by
  simp [readings, List.splitOn_append_cons_self]

theorem length_readings (source : Text) : (readings source).length = source.count '\n' + 1 := by
  rw [readings, List.length_map, Text.length_splitOn]

/-- A source that consists of two with a line feed between them is tokenized as these are: an error of the
first one ends it all, and what comes of the second one stands below the lines of the first. -/
theorem tokenize_append_lineFeed (first second : Text) :
    tokenize (first ++ '\n' :: second) =
      match tokenize first with
      | .error error => .error error
      | .ok table =>
          match tokenize second with
          | .error error => .error (error.relocate (·.below (1 + first.count '\n')))
          | .ok later => .ok (table.append (later.relocate (·.below (1 + first.count '\n'))).tokens) := by
  have height : 1 + (readings first).length = 1 + (1 + first.count '\n') := by
    rw [length_readings, Nat.add_comm 1 (first.count '\n')]
  rw [tokenize_eq_outcomeFrom, readings_append_lineFeed, outcomeFrom_append, height, outcomeFrom_add,
    ← tokenize_eq_outcomeFrom, ← tokenize_eq_outcomeFrom]
  cases tokenize first with
  | error error => rfl
  | ok table => cases tokenize second <;> rfl

end Lexical
