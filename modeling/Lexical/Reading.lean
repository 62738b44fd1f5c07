/-
Module: Lexical.Reading
Layer: Scanner
Purpose: Reading one line: the lexemes that a grammar finds in it, up to the first fault. The segments of
  the line are judged one by one. A blank character between two matches is passed over; any other
  character that no rule covers is a fault, which is reported together with all that follows it up to the
  next blank character. A line is read without regard to the lines before it.
Imports: Lexical.Fault, Lexical.Grammar.Rules, Lexical.Text.Unicode, Lexical.Token
Main exports: Lexeme, Misreading, Reading, judge, Grammar.read, readLine
-/

import Lexical.Fault
import Lexical.Grammar.Rules
import Lexical.Text.Unicode
import Lexical.Token

namespace Lexical

/-- A piece of a line that a rule has recognised. -/
structure Lexeme where
  category : Category
  literal : Text
  /-- The number of its first character in the line. -/
  column : Nat
deriving DecidableEq, Repr

/-- A fault in a line. -/
structure Misreading where
  fault : Fault
  /-- The number of the first character that is wrong. -/
  column : Nat
deriving DecidableEq, Repr

/-- What reading a line gives: its lexemes, all of them or those before its first fault. -/
structure Reading where
  lexemes : List Lexeme
  misreading? : Option Misreading
deriving DecidableEq, Repr

/-- The lexeme as a token of the line with the given number. -/
def Lexeme.toToken (lexeme : Lexeme) (line : Nat) : Token :=
  { category := lexeme.category, literal := lexeme.literal,
    position := { line, column := lexeme.column } }

/-- The misreading as an error of the line with the given number. -/
def Misreading.toError (misreading : Misreading) (line : Nat) : LexicalError :=
  { fault := misreading.fault, position := { line, column := misreading.column } }

/-- What stands between the marks of a literal. -/
def enclosed (literal : Text) : Text :=
  literal.tail.dropLast

/-- What becomes of a segment of a line. -/
inductive Verdict where
  | skip
  | accept (lexeme : Lexeme)
  | reject (misreading : Misreading)
deriving DecidableEq, Repr

/-- Judges a segment. Of the matches, those of unknown characters are faults, and so is a character literal
that encloses more than one character. -/
def judge : Segment Rule → Verdict
  | .gap place c =>
      if Text.isBlank c then .skip
      else
        .reject
          { fault := .unknownToken (place.rest.takeWhile (!Text.isBlank ·)), column := place.column }
  | .hit rule first last =>
      let literal := first.textUntil last
      match rule.action with
      | .skip => .skip
      | .emit .unknown => .reject { fault := .unknownToken literal, column := first.column }
      | .emit .char =>
          if (enclosed literal).length ≤ 1 then
            .accept { category := .char, literal, column := first.column }
          else .reject { fault := .invalidCharLiteral literal, column := first.column }
      | .emit category => .accept { category, literal, column := first.column }

/-- Puts what a segment gives in front of the reading of the segments after it. Behind a fault nothing is
read any more. -/
def Verdict.prepend (verdict : Verdict) (later : Reading) : Reading :=
  match verdict with
  | .skip => later
  | .accept lexeme => { later with lexemes := lexeme :: later.lexemes }
  | .reject misreading => { lexemes := [], misreading? := some misreading }

/-- The reading of a line that has been cut into segments. -/
def readSegments (parts : List (Segment Rule)) : Reading :=
  parts.foldr (fun segment later => (judge segment).prepend later)
    { lexemes := [], misreading? := none }

/-- The reading of a line by a grammar. -/
def Grammar.read (grammar : Grammar) (line : Text) : Reading :=
  readSegments (segments grammar.firstMatch? line)

/-- The reading of a line by the rules of the language. -/
def readLine (line : Text) : Reading :=
  Grammar.rules.read line

/-- A line without segments has no lexemes and no fault. -/
@[simp] theorem readSegments_nil :
    readSegments [] = { lexemes := [], misreading? := none } := rfl

/-- The segments of a line are judged from left to right. -/
@[simp] theorem readSegments_cons (segment : Segment Rule) (parts : List (Segment Rule)) :
    readSegments (segment :: parts) = (judge segment).prepend (readSegments parts) := rfl

end Lexical
