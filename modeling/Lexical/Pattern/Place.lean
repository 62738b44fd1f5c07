/-
Module: Lexical.Pattern.Place
Layer: Pattern
Purpose: A place between two characters of a text, which is where a pattern starts and where it ends.
  A place knows the character before it, how many characters stand before it, and all that follows it.
  Nothing else about the text can matter to a pattern: that is why a line can be recognised piece by
  piece.
Imports: Lexical.Text.Unicode
Main exports: Place, Place.start, Place.column, Place.atWordBoundary, Place.after?,
  Place.textUntil, Place.shortestFirst, Place.longestFirst
-/

import Lexical.Text.Unicode

namespace Lexical

/-- A place in a text. -/
structure Place where
  /-- The character before the place, if there is one. -/
  before : Option Char
  /-- The number of characters before the place. -/
  offset : Nat
  /-- The text from the place on. -/
  rest : Text
deriving DecidableEq, Repr

namespace Place

/-- The place in front of a whole text. -/
def start (text : Text) : Place :=
  { before := none, offset := 0, rest := text }

/-- The column of the character after the place. Columns are counted from one. -/
def column (place : Place) : Nat :=
  place.offset + 1

/-- Whether there is a word character before the place. -/
def wordBefore (place : Place) : Bool :=
  place.before.any Text.isWord

/-- Whether there is a word character after the place. -/
def wordAfter (place : Place) : Bool :=
  place.rest.head?.any Text.isWord

/-- Whether a word begins or ends at the place: a word character stands on exactly one side of it. -/
def atWordBoundary (place : Place) : Bool :=
  place.wordBefore != place.wordAfter

/-- The place after the given words, if these are what stands at the place. -/
def after? (place : Place) : Text → Option Place
  | [] => some place
  | expected :: words =>
      match place.rest with
      | [] => none
      | c :: rest =>
          if c = expected then
            after? { before := some c, offset := place.offset + 1, rest := rest } words
          else none

/-- The text between the place and a later place of the same text. -/
def textUntil (place later : Place) : Text :=
  place.rest.take (later.offset - place.offset)

/-- Every place that can be reached by passing over characters that `holds` accepts, the farthest one
first, all of them ahead of the places in `passed`. -/
def spansOnto (holds : Char → Bool) (passed : List Place) (before : Option Char) (offset : Nat) :
    Text → List Place
  | [] => { before, offset, rest := [] } :: passed
  | c :: rest =>
      let here : Place := { before, offset, rest := c :: rest }
      if holds c then spansOnto holds (here :: passed) (some c) (offset + 1) rest
      else here :: passed

/-- The places that can be reached by passing over accepted characters, the farthest first and the
place itself last. -/
def longestFirst (holds : Char → Bool) (place : Place) : List Place :=
  spansOnto holds [] place.before place.offset place.rest

/-- The places that can be reached by passing over accepted characters, the place itself first. -/
def shortestFirst (holds : Char → Bool) (place : Place) : List Place :=
  (longestFirst holds place).reverse

/-- The places already passed stay at the end of the list. -/
theorem spansOnto_eq_append (holds : Char → Bool) (passed : List Place) (before : Option Char)
    (offset : Nat) (text : Text) :
    spansOnto holds passed before offset text = spansOnto holds [] before offset text ++ passed := by
  induction text generalizing passed before offset with
  | nil => rfl
  | cons c rest ih =>
      by_cases accepted : holds c = true
      · simp only [spansOnto, accepted, if_true]
        rw [ih, ih [_]]
        simp
      · simp [spansOnto, accepted]

/-- At the end of the text no character can be passed over. -/
theorem shortestFirst_nil (holds : Char → Bool) (before : Option Char) (offset : Nat) :
    shortestFirst holds { before, offset, rest := [] } = [{ before, offset, rest := [] }] := rfl

/-- Before a character, the place itself comes first, and then, if the character is accepted, what can be
reached from behind it. -/
theorem shortestFirst_cons (holds : Char → Bool) (before : Option Char) (offset : Nat) (c : Char)
    (rest : Text) :
    shortestFirst holds { before, offset, rest := c :: rest } =
      { before, offset, rest := c :: rest } ::
        if holds c then shortestFirst holds { before := some c, offset := offset + 1, rest } else [] := by
  by_cases accepted : holds c = true
  · simp [shortestFirst, longestFirst, spansOnto, accepted, spansOnto_eq_append holds [_]]
  · simp [shortestFirst, longestFirst, spansOnto, accepted]

/-- The two orders are the reverse of each other. -/
theorem longestFirst_eq_reverse (holds : Char → Bool) (place : Place) :
    longestFirst holds place = (shortestFirst holds place).reverse := by
  simp [shortestFirst]

end Place

end Lexical
