/-
Module: Lexical.Sweep
Layer: Scanner
Purpose: Reading a line by the bytes of its matches. A sweep goes through the matches of the grammar from
  left to right and keeps the byte behind the last one; what lies between there and the next match has to
  be blank. Columns come from a tracker, which counts on from the byte that it was asked for last. All text
  is cut out of the line by its bytes, and a sweep that cuts where the line has no place ends without any
  result. What a sweep finds is the reading of the line.
Imports: Lexical.Reading, Lexical.Text.Bytes
Main exports: ColumnTracker, ColumnTracker.columnAt?, ColumnQuery, Sweep, Sweep.Turn, Sweep.checkGap?,
  Sweep.emit?, Sweep.turn?, Sweep.run?, Sweep.overLine?
-/

import Lexical.Reading
import Lexical.Text.Bytes

namespace Lexical

/-! ### Columns -/

/-- A byte of a line and the column of the character that begins there. -/
structure ColumnTracker where
  byte : Nat
  column : Nat
deriving DecidableEq, Repr

namespace ColumnTracker

/-- The tracker in front of a line. -/
def start : ColumnTracker :=
  { byte := 0, column := 1 }

/-- The column at a byte, and the tracker afterwards. The characters from the byte of the tracker on are
counted, and the tracker moves to the byte that was asked for. In front of its own byte the tracker counts
from the start of the line and stays where it is. -/
def columnAt? (tracker : ColumnTracker) (line : Text) (byte : Nat) : Option (Nat × ColumnTracker) :=
  if byte < tracker.byte then
    (line.slice? 0 byte).map fun passed => (passed.length + 1, tracker)
  else
    (line.slice? tracker.byte byte).map fun passed =>
      (tracker.column + passed.length, { byte, column := tracker.column + passed.length })

end ColumnTracker

/-- A question for a column: the tracker that was asked, the byte, and the answer. -/
structure ColumnQuery where
  tracker : ColumnTracker
  byte : Nat
  column : Nat
deriving DecidableEq, Repr

/-! ### Sweeps -/

/-- A sweep over a line, between two of its matches. -/
structure Sweep where
  /-- The byte behind the last match. -/
  cursor : Nat
  /-- What gives the columns. -/
  tracker : ColumnTracker
  /-- The questions for columns so far, in order. -/
  queries : List ColumnQuery
  /-- The lexemes so far. -/
  lexemes : List Lexeme
deriving DecidableEq, Repr

namespace Sweep

/-- A sweep that has seen nothing of its line yet. -/
def start : Sweep :=
  { cursor := 0, tracker := .start, queries := [], lexemes := [] }

/-- What a part of a sweep comes to: the sweep from there on, and the fault at which it ended. -/
structure Turn where
  sweep : Sweep
  misreading? : Option Misreading
deriving DecidableEq, Repr

/-- The sweep as a reading of its line. -/
def Turn.reading (turn : Turn) : Reading :=
  { lexemes := turn.sweep.lexemes, misreading? := turn.misreading? }

/-- Asks for a column. -/
def columnAt? (sweep : Sweep) (line : Text) (byte : Nat) : Option (Nat × Sweep) :=
  (sweep.tracker.columnAt? line byte).map fun (column, tracker) =>
    (column, { sweep with
      tracker
      queries := sweep.queries ++ [{ tracker := sweep.tracker, byte, column }] })

/-- Puts the last match behind. -/
def moveTo (sweep : Sweep) (byte : Nat) : Sweep :=
  { sweep with cursor := byte }

/-- Takes in a lexeme. -/
def accept (sweep : Sweep) (lexeme : Lexeme) : Turn :=
  { sweep := { sweep with lexemes := sweep.lexemes ++ [lexeme] }, misreading? := none }

/-- Looks at the text between the last match and a byte. A character in it that is not blank is a fault,
together with all that follows it up to the next blank character of the line. -/
def checkGap? (sweep : Sweep) (line : Text) (byte : Nat) : Option Turn := do
  let gap ← line.slice? sweep.cursor byte
  match Text.firstByte? (!Text.isBlank ·) gap with
  | none => return { sweep, misreading? := none }
  | some offset =>
      let first := sweep.cursor + offset
      let behind ← line.slice? first line.utf8Length
      let last := ((Text.firstByte? Text.isBlank behind).map (first + ·)).getD line.utf8Length
      let literal ← line.slice? first last
      let (column, sweep) ← sweep.columnAt? line first
      return { sweep, misreading? := some { fault := .unknownToken literal, column } }

/-- Takes in the match of a rule that gives lexemes of a category. -/
def emit? (sweep : Sweep) (line : Text) (category : Category) (first last : Nat) : Option Turn := do
  let literal ← line.slice? first last
  let (column, sweep) ← sweep.columnAt? line first
  match category with
  | .unknown => return { sweep, misreading? := some { fault := .unknownToken literal, column } }
  | .char =>
      let inner ← literal.slice? 1 (literal.utf8Length - 1)
      if inner.length ≤ 1 then return sweep.accept { category := .char, literal, column }
      else return { sweep, misreading? := some { fault := .invalidCharLiteral literal, column } }
  | category => return sweep.accept { category, literal, column }

/-- Goes on over one match: the gap in front of it, and then the match itself. -/
def turn? (sweep : Sweep) (line : Text) (found : Grammar.Match) : Option Turn :=
  match Grammar.rules.find? (·.name = found.ruleName) with
  | none => some { sweep, misreading? := none }
  | some rule => do
      let gap ← sweep.checkGap? line found.first
      match gap.misreading?, rule.action with
      | some _, _ => return gap
      | none, .skip => return { sweep := gap.sweep.moveTo found.last, misreading? := none }
      | none, .emit category =>
          (gap.sweep.moveTo found.last).emit? line category found.first found.last

/-- Goes on over matches up to the first fault, and then looks at what is left of the line. -/
def run? (sweep : Sweep) (line : Text) : List Grammar.Match → Option Turn
  | [] => sweep.checkGap? line line.utf8Length
  | found :: later => do
      let turn ← sweep.turn? line found
      match turn.misreading? with
      | some _ => return turn
      | none => turn.sweep.run? line later

/-- The sweep over a whole line. -/
def overLine? (line : Text) : Option Turn :=
  start.run? line (Grammar.rules.matchesIn line)

end Sweep

end Lexical
