/-
Module: Lexical.Comment
Layer: Analysis
Purpose: Removing comments so that every token keeps its line and its column. A block comment becomes as
  many spaces, with its line feeds kept; a line comment disappears, since no token can follow it on its
  line. A string is passed over as a whole, so that what looks like a comment inside it stays.
Imports: Lexical.Pattern.Basic, Lexical.Pattern.Segment
Main exports: Comment.Covered, Comment.find, Comment.replacement, Comment.strip
-/

import Lexical.Pattern.Basic
import Lexical.Pattern.Segment

namespace Lexical.Comment

/-- What the search for comments can find. -/
inductive Covered where
  /-- A string on one line, which hides comment signs. -/
  | string
  /-- A comment from `/*` to the nearest `*/`, over any number of lines. -/
  | block
  /-- A comment from two slashes to the end of the line. -/
  | line
deriving DecidableEq, Repr

/-- What each of them looks like. A block comment or a string that is not closed is none. -/
def Covered.pattern : Covered → Pattern
  | .string =>
      .seq (.literal ['"'])
        (.seq (.many (.noneOf [.char '"', .char '\n']) .longest) (.literal ['"']))
  | .block =>
      .seq (.literal "/*".toList) (.seq (.many .any .shortest) (.literal "*/".toList))
  | .line => .seq (.literal "//".toList) (.many (.noneOf [.char '\n']) .longest)

/-- What begins at the place, and where it ends. -/
def find (place : Place) : Option (Covered × Place) :=
  [Covered.string, .block, .line].findSome? fun covered =>
    (covered.pattern.match? place).map (covered, ·)

/-- What is put in place of a segment of the source. -/
def replacement : Segment Covered → Text
  | .gap _ c => [c]
  | .hit .string first last => first.textUntil last
  | .hit .block first last =>
      (first.textUntil last).map fun c => if c = '\n' then '\n' else ' '
  | .hit .line _ _ => []

/-- The source without its comments. -/
def strip (source : Text) : Text :=
  (segments find source).flatMap replacement

end Lexical.Comment
