/-
Module: Lexical.Pattern.Basic
Layer: Pattern
Purpose: Patterns over texts, what they match, and how they are written down. The meaning of a pattern is the
  list of places at which a match from a given place can end, in order of preference; a pattern with several
  ways to match is thereby settled without a search: its match is the first place of the list. Ordered choice
  puts the places of the first alternative ahead of those of the second, a sequence goes through the places of
  its first part in their order, and a repetition lists its places from the longest or from the shortest.
  The lemmas named `match?_…_then` say what the first part of a sequence leaves to the second. Written down, a
  pattern has the customary notation for regular expressions, in which a backslash takes its special meaning
  from a character.
Imports: Lexical.Pattern.Place
Main exports: ClassItem, CharClass, CharClass.holds, Preference, Pattern, Pattern.reach, Pattern.match?,
  Pattern.match?_seq, Pattern.literal, Pattern.longestListed, Pattern.symbols, Pattern.words,
  Pattern.escaped, Pattern.alternation, Pattern.written
-/

import Lexical.Pattern.Place

namespace Lexical

/-! ### Classes of characters -/

/-- One entry of a bracketed class. -/
inductive ClassItem where
  /-- Every character from the first to the last, in the order of code points. -/
  | range (first last : Char)
  /-- The one character. -/
  | char (c : Char)
  /-- Every blank character, `\s`. -/
  | blank
deriving DecidableEq, Repr

namespace ClassItem

/-- Whether the entry covers the character. -/
def holds : ClassItem → Char → Bool
  | .range first last, c => first ≤ c && c ≤ last
  | .char expected, c => c == expected
  | .blank, c => Text.isBlank c

/-- The entry as it stands between the brackets. -/
def written : ClassItem → Text
  | .range first last => [first, '-', last]
  | .char c => if c = '\n' then ['\\', 'n'] else [c]
  | .blank => ['\\', 's']

end ClassItem

/-- A class of characters. -/
inductive CharClass where
  /-- Every character but the line feed, `.`. -/
  | notLineFeed
  /-- Every character. -/
  | any
  /-- Every blank character, `\s`. -/
  | blank
  /-- The characters that some entry covers, `[…]`. -/
  | oneOf (items : List ClassItem)
  /-- The characters that no entry covers, `[^…]`. -/
  | noneOf (items : List ClassItem)
deriving DecidableEq, Repr

namespace CharClass

/-- Whether the class holds the character. -/
def holds : CharClass → Char → Bool
  | .notLineFeed, c => c != '\n'
  | .any, _ => true
  | .blank, c => Text.isBlank c
  | .oneOf items, c => items.any (·.holds c)
  | .noneOf items, c => !items.any (·.holds c)

/-- The class as it is written in a pattern. -/
def written : CharClass → Text
  | .notLineFeed => ['.']
  | .any => "(?s:.)".toList
  | .blank => ['\\', 's']
  | .oneOf items => '[' :: (items.flatMap ClassItem.written ++ [']'])
  | .noneOf items => '[' :: '^' :: (items.flatMap ClassItem.written ++ [']'])

end CharClass

/-! ### Patterns -/

/-- Which of the possible lengths a repetition prefers. -/
inductive Preference where
  | longest
  | shortest
deriving DecidableEq, Repr

/-- The places that pass over any number of accepted characters, the preferred one first. -/
def Preference.spans (preference : Preference) (holds : Char → Bool) (place : Place) : List Place :=
  match preference with
  | .longest => place.longestFirst holds
  | .shortest => place.shortestFirst holds

/-- A pattern. -/
inductive Pattern where
  /-- One of the listed texts, which are tried in their order. -/
  | literals (texts : List Text)
  /-- One character of the class. -/
  | one (cls : CharClass)
  /-- Any number of characters of the class, none at all included. -/
  | many (cls : CharClass) (preference : Preference)
  /-- At least one character of the class, as many as possible. -/
  | many1 (cls : CharClass)
  /-- A place with a word character on exactly one side. -/
  | wordBoundary
  /-- The place before the whole text. -/
  | textStart
  /-- The place after the whole text. -/
  | textEnd
  /-- The first pattern and then the second. -/
  | seq (first second : Pattern)
  /-- The first pattern or else the second. -/
  | alt (first second : Pattern)
  /-- The pattern if it matches, or else nothing. -/
  | optional (inner : Pattern)
  /-- The pattern in brackets. They only hold its parts together when it is written down. -/
  | group (inner : Pattern)
deriving DecidableEq, Repr

namespace Pattern

/-- The places at which a match from the given place can end, in order of preference. -/
def reach : Pattern → Place → List Place
  | .literals texts, place => texts.filterMap place.after?
  | .one cls, place =>
      match place.rest with
      | [] => []
      | c :: rest =>
          if cls.holds c then [{ before := some c, offset := place.offset + 1, rest := rest }] else []
  | .many cls preference, place => preference.spans cls.holds place
  | .many1 cls, place => (place.longestFirst cls.holds).dropLast
  | .wordBoundary, place => if place.atWordBoundary then [place] else []
  | .textStart, place => if place.offset = 0 then [place] else []
  | .textEnd, place => if place.rest = [] then [place] else []
  | .seq first second, place => (first.reach place).flatMap second.reach
  | .alt first second, place => first.reach place ++ second.reach place
  | .optional inner, place => inner.reach place ++ [place]
  | .group inner, place => inner.reach place

/-- The place at which the match of the pattern from the given place ends, if it matches there. -/
def match? (pattern : Pattern) (place : Place) : Option Place :=
  (pattern.reach place).head?

/-- The places behind the first part are tried in their order. -/
theorem match?_seq (first second : Pattern) (place : Place) :
    (seq first second).match? place = (first.reach place).findSome? second.match? :=
  List.head?_flatMap

theorem match?_alt (first second : Pattern) (place : Place) :
    (alt first second).match? place = (first.match? place).or (second.match? place) :=
  List.head?_append

theorem match?_seq_assoc (first second third : Pattern) (place : Place) :
    (seq (seq first second) third).match? place = (seq first (seq second third)).match? place := by
  simp only [match?, reach, List.flatMap_assoc]

theorem match?_group_then (inner rest : Pattern) (place : Place) :
    (seq (group inner) rest).match? place = (seq inner rest).match? place := rfl

/-- An optional part is tried first and then left out. -/
theorem match?_optional_then (inner rest : Pattern) (place : Place) :
    (seq (optional inner) rest).match? place =
      ((seq inner rest).match? place).or (rest.match? place) := by
  simp only [match?_seq, reach, List.findSome?_append, List.findSome?_singleton]

theorem match?_literals (texts : List Text) (place : Place) :
    (literals texts).match? place = texts.findSome? place.after? :=
  List.head?_filterMap

theorem match?_wordBoundary (place : Place) :
    wordBoundary.match? place = if place.atWordBoundary then some place else none := by
  by_cases boundary : place.atWordBoundary = true <;> simp [match?, reach, boundary]

theorem match?_wordBoundary_then (rest : Pattern) (place : Place) :
    (seq wordBoundary rest).match? place = if place.atWordBoundary then rest.match? place else none := by
  by_cases boundary : place.atWordBoundary = true <;> simp [match?, reach, boundary]

theorem match?_textEnd (place : Place) :
    textEnd.match? place = if place.rest = [] then some place else none := by
  by_cases atEnd : place.rest = [] <;> simp [match?, reach, atEnd]

theorem match?_textStart_then (rest : Pattern) (place : Place) :
    (seq textStart rest).match? place = if place.offset = 0 then rest.match? place else none := by
  by_cases atStart : place.offset = 0 <;> simp [match?, reach, atStart]

/-- The pattern of one fixed text. -/
def literal (text : Text) : Pattern :=
  .literals [text]

theorem match?_literal (text : Text) (place : Place) :
    (literal text).match? place = place.after? text := by
  rw [literal, match?_literals, List.findSome?_singleton]

/-- The texts from the longest to the shortest, by their length in UTF-8. Texts of equal length keep their
order. With the longer ones first, none is hidden behind a shorter one that it begins with. -/
def longestListed (texts : List Text) : List Text :=
  texts.mergeSort fun first second => second.utf8Length ≤ first.utf8Length

/-- One of the symbols, the longest that fits. -/
def symbols (texts : List Text) : Pattern :=
  .literals (longestListed texts)

/-- One of the words, with a word boundary before it and after it. -/
def words (texts : List Text) : Pattern :=
  .seq .wordBoundary (.seq (.group (symbols texts)) .wordBoundary)

end Pattern

/-! ### Written patterns -/

/-- The mark of a repetition of any number of characters: a question mark turns the preference round. -/
def Preference.mark : Preference → Text
  | .longest => ['*']
  | .shortest => ['*', '?']

namespace Pattern

/-- The characters that mean something of their own in a written pattern, or could in some setting. -/
def specialChars : List Char :=
  ['\\', '.', '+', '*', '?', '(', ')', '|', '[', ']', '{', '}', '^', '$', '#', '&', '-', '~']

/-- Whether the character needs a backslash in order to stand for itself. -/
def isSpecial (c : Char) : Bool :=
  specialChars.contains c

/-- The text written so that it stands for itself. -/
def escaped (text : Text) : Text :=
  text.flatMap fun c => if isSpecial c then ['\\', c] else [c]

/-- The texts, each standing for itself, as alternatives in their order. -/
def alternation (texts : List Text) : Text :=
  Text.joined ['|'] (texts.map escaped)

/-- The pattern written down. -/
def written : Pattern → Text
  | .literals texts => alternation texts
  | .one cls => cls.written
  | .many cls preference => cls.written ++ preference.mark
  | .many1 cls => cls.written ++ ['+']
  | .wordBoundary => ['\\', 'b']
  | .textStart => ['^']
  | .textEnd => ['$']
  | .seq first second => first.written ++ second.written
  | .alt first second => first.written ++ '|' :: second.written
  | .optional inner => inner.written ++ ['?']
  | .group inner => "(?:".toList ++ inner.written ++ [')']

end Pattern

end Lexical
