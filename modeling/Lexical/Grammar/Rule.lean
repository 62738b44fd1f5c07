/-
Module: Lexical.Grammar.Rule
Layer: Grammar
Purpose: Rules of a grammar: a name, a pattern, and what becomes of a lexeme that the pattern matches.
  A rule is published by a matcher, which lists the words or symbols or shows the pattern as it is
  written; the rule carries the proof that this is the pattern which it runs.
Imports: Lexical.Token, Lexical.Pattern.Segment, Lexical.Pattern.Basic
Main exports: Matcher, Matcher.written, Action, Rule, Grammar, Grammar.firstMatch?, Grammar.combined,
  Grammar.groupCount, Grammar.matchesIn
-/

import Lexical.Token
import Lexical.Pattern.Segment
import Lexical.Pattern.Basic

namespace Lexical

/-- How a rule is published. -/
inductive Matcher where
  /-- Whole words only. -/
  | words (texts : List Text)
  /-- Fixed symbols, of which the longest that fits is taken. -/
  | symbols (texts : List Text)
  /-- A pattern that is written out. -/
  | pattern (text : Text)
deriving DecidableEq, Repr

/-- The pattern that a matcher stands for, written down. -/
def Matcher.written : Matcher → Text
  | .words texts => (Pattern.words texts).written
  | .symbols texts => (Pattern.symbols texts).written
  | .pattern text => text

/-- What becomes of a lexeme. -/
inductive Action where
  /-- It is a token of the category. -/
  | emit (category : Category)
  /-- It is passed over. -/
  | skip
deriving DecidableEq, Repr

/-- A rule of a grammar. -/
structure Rule where
  /-- The name of the rule, which also names its group in the combined pattern. -/
  name : Text
  /-- How the rule is published. -/
  matcher : Matcher
  /-- What the rule matches. -/
  pattern : Pattern
  /-- What becomes of a match. -/
  action : Action
  /-- What is published is what is matched. -/
  written_eq : pattern.written = matcher.written

namespace Rule

/-- A rule for whole words. -/
def ofWords (name : Text) (texts : List Text) (action : Action) : Rule :=
  { name, matcher := .words texts, pattern := Pattern.words texts, action, written_eq := rfl }

/-- A rule for fixed symbols. -/
def ofSymbols (name : Text) (texts : List Text) (action : Action) : Rule :=
  { name, matcher := .symbols texts, pattern := Pattern.symbols texts, action, written_eq := rfl }

/-- A rule for a pattern that is written out. -/
def ofPattern (name : Text) (pattern : Pattern) (action : Action) : Rule :=
  { name, matcher := .pattern pattern.written, pattern, action, written_eq := rfl }

/-- The rule as one named group of the combined pattern. -/
def writtenGroup (rule : Rule) : Text :=
  "(?P<".toList ++ rule.name ++ '>' :: (rule.matcher.written ++ [')'])

end Rule

/-- A grammar is the list of its rules, those that come first going before the others. -/
abbrev Grammar := List Rule

namespace Grammar

/-- The first rule that matches at the place, and where its match ends. That a later rule would match more
text makes no difference. -/
def firstMatch? (grammar : Grammar) (place : Place) : Option (Rule × Place) :=
  grammar.findSome? fun rule => (rule.pattern.match? place).map (rule, ·)

/-- All rules as one pattern: the groups of the rules as alternatives, in the order of the grammar. -/
def combined (grammar : Grammar) : Text :=
  Text.joined ['|'] (grammar.map Rule.writtenGroup)

/-- The number of groups of the combined pattern: one for each rule, and the whole match. -/
def groupCount (grammar : Grammar) : Nat :=
  grammar.length + 1

/-- A match found in a text: the name of its rule and the bytes that it takes up in UTF-8, counted from
the start of the text. -/
structure Match where
  ruleName : Text
  first : Nat
  last : Nat
deriving DecidableEq, Repr

/-- The matches among the segments of a text, of which the first begins after the given number of bytes.
The segments cover the text without a hole, so the bytes of one begin where those of the one before end. -/
def matchesFrom (bytes : Nat) : List (Segment Rule) → List Match
  | [] => []
  | .gap _ c :: later => matchesFrom (bytes + c.utf8Size) later
  | .hit rule first last :: later =>
      let next := bytes + (first.textUntil last).utf8Length
      { ruleName := rule.name, first := bytes, last := next } :: matchesFrom next later

/-- The matches in a text from left to right, each beginning where the one before it ended or later. -/
def matchesIn (grammar : Grammar) (text : Text) : List Match :=
  matchesFrom 0 (segments grammar.firstMatch? text)

end Grammar

end Lexical
