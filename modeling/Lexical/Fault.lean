/-
Module: Lexical.Fault
Layer: Grammar
Purpose: What can be wrong in a source: characters that are no lexeme, and a character literal that holds
  more than one character. A fault with its position is the error that a scan ends with. The wording of
  every message is here and nowhere else. An error is shown to a reader by an excerpt: what it is, the name
  of the file, the source line without its indentation, and a caret under the character at which the fault
  begins. The caret is drawn at the end of a run of dashes as wide as the column; a run wider than the widest
  field there can be is refused.
Imports: Lexical.Text.Unicode, Lexical.Token
Main exports: Fault, Fault.literal, Fault.name, Fault.message, Fault.tip?, LexicalError,
  LexicalError.message, isIndent, indentation, ExcerptError, ExcerptError.message, excerpt
-/

import Lexical.Text.Unicode
import Lexical.Token

namespace Lexical

/-- What is wrong with a piece of the source. -/
inductive Fault where
  /-- The characters belong to no lexeme. -/
  | unknownToken (literal : Text)
  /-- There is more than one character between the apostrophes. -/
  | invalidCharLiteral (literal : Text)
deriving DecidableEq, Repr

namespace Fault

/-- The piece of the source that is wrong. -/
def literal : Fault → Text
  | .unknownToken literal => literal
  | .invalidCharLiteral literal => literal

/-- The name of the kind of fault. -/
def name : Fault → Text
  | .unknownToken _ => "UnknownToken".toList
  | .invalidCharLiteral _ => "InvalidCharLiteral".toList

/-- What is said of the fault. Characters that belong to no lexeme can be anything, so they are quoted;
a character literal brings its apostrophes along and is shown as it stands. -/
def message : Fault → Text
  | .unknownToken literal => "unknown token: ".toList ++ literal.quoted
  | .invalidCharLiteral literal => "invalid char literal: ".toList ++ literal

/-- A hint at what may have been meant. -/
def tip? : Fault → Option Text
  | .unknownToken _ => none
  | .invalidCharLiteral literal =>
      some ("Invalid char literal: `".toList ++ literal ++
        "`, a char holds at most one character, use double quotes for strings".toList)

end Fault

/-- A fault and where the piece begins that is wrong. -/
structure LexicalError where
  fault : Fault
  position : Position
deriving DecidableEq, Repr

/-- What is said of the error: the fault, and where it is. -/
def LexicalError.message (error : LexicalError) : Text :=
  error.fault.message ++ " at ".toList ++ error.position.text

/-! ### Excerpts -/

/-- The characters that count as indentation. Other blank characters do not. -/
def isIndent (c : Char) : Bool :=
  c == ' ' || c == '\t'

/-- The number of characters by which the line is indented. -/
def indentation (line : Text) : Nat :=
  (line.takeWhile isIndent).length

/-- Why an error cannot be shown. -/
inductive ExcerptError where
  /-- The caret would stand in a field that is too wide. -/
  | caretTooWide
deriving DecidableEq, Repr

/-- What is said when an error cannot be shown. -/
def ExcerptError.message : ExcerptError → Text
  | .caretTooWide => "Formatting argument out of range".toList

/-- The width of the widest field. -/
def maxFieldWidth : Nat := 65535

/-- The first line of an excerpt: the tip if the fault has one, and else the literal and where it is. -/
def LexicalError.headline (error : LexicalError) : Text :=
  match error.fault.tip? with
  | none =>
      "Error: ".toList ++ error.fault.name ++ " `".toList ++ error.fault.literal ++ "` at ".toList ++
        error.position.text
  | some tip => "Error: ".toList ++ error.fault.name ++ " (".toList ++ tip ++ ")".toList

/-- The width of the dashes with the caret at their end: the column, less the indentation that is not
shown, and at least the caret itself. -/
def caretWidth (column : Nat) (line : Text) : Nat :=
  max (column - indentation line) 1

/-- The error as it is shown to a reader of the file, whose text is `content`. An error on a line that the
text does not have is shown with an empty line. -/
def excerpt (error : LexicalError) (content file : Text) : Except ExcerptError Text :=
  let line := (content.line? error.position.line).getD []
  let number := Text.ofNat error.position.line
  let margin := Text.padLeft (number.length + 2) ' ' ['|']
  let shown := Text.trimEnd (line.drop (indentation line))
  let width := caretWidth error.position.column line
  if maxFieldWidth < width then .error .caretTooWide
  else .ok <|
    error.headline ++ '\n' ::
    ("-> ".toList ++ file ++ '\n' ::
    (margin ++ '\n' ::
    (number ++ " | ".toList ++ shown ++ '\n' ::
    (margin ++ ' ' :: (Text.padLeft width '-' ['^'] ++ ['\n'])))))

end Lexical
