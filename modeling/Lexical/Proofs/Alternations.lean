/-
Module: Lexical.Proofs.Alternations
Layer: Proofs
Purpose: Alternatives as they are written down. A written alternation is read by parting it at the bars
  that are not escaped and then undoing the escapes (`Pattern.alternatives`, `Pattern.unescaped`); whatever
  characters the texts hold, this gives them back in the order in which they were written. That order is
  from the longest to the shortest, so the first alternative that a text begins with is the longest one.
Imports: Lexical.Grammar.Rule, Lexical.Proofs.Lines, Lexical.Proofs.Passing, Lexical.Text.Bytes
Main exports: Pattern.alternatives, Pattern.unescaped, Pattern.read_alternation, Pattern.LongestFirst,
  Pattern.longestFirst_longestListed, Pattern.LongestFirst.find?_eq_some_iff,
  Matcher.alternatives_longestFirst
-/

import Lexical.Grammar.Rule
import Lexical.Proofs.Lines
import Lexical.Proofs.Passing
import Lexical.Text.Bytes

namespace Lexical

namespace Pattern

/-! ### Reading alternatives back -/

/-- The alternatives of a written pattern, with their escapes. A bar ends an alternative; behind a backslash
it is a character like any other. -/
def alternatives : Text → List Text
  | [] => [[]]
  | '\\' :: c :: rest => (alternatives rest).modifyHead ('\\' :: c :: ·)
  | '|' :: rest => [] :: alternatives rest
  | c :: rest => (alternatives rest).modifyHead (c :: ·)

/-- The text that a written pattern without special characters stands for: a backslash gives way to the
character behind it. -/
def unescaped : Text → Text
  | [] => []
  | '\\' :: c :: rest => c :: unescaped rest
  | c :: rest => c :: unescaped rest

theorem escaped_cons (c : Char) (text : Text) :
    escaped (c :: text) = (if isSpecial c then ['\\', c] else [c]) ++ escaped text := rfl

/-- A character that is not special is neither a backslash nor a bar. -/
theorem ne_of_not_isSpecial {c : Char} (plain : ¬ isSpecial c = true) : c ≠ '\\' ∧ c ≠ '|' := by
  constructor <;> rintro rfl <;> exact plain rfl

theorem alternatives_cons_of_ne {c : Char} (rest : Text) (noBackslash : c ≠ '\\') (noBar : c ≠ '|') :
    alternatives (c :: rest) = (alternatives rest).modifyHead (c :: ·) := by
  rw [alternatives]
  · exact fun d later same => absurd same noBackslash
  · exact noBar

theorem unescaped_cons_of_ne {c : Char} (rest : Text) (noBackslash : c ≠ '\\') :
    unescaped (c :: rest) = c :: unescaped rest := by
  rw [unescaped]
  exact fun d later same => absurd same noBackslash

/-- An escaped text belongs to the first alternative of what it stands in front of. -/
theorem alternatives_escaped_append (text : Text) {rest first : Text} {later : List Text}
    (parts : alternatives rest = first :: later) :
    alternatives (escaped text ++ rest) = (escaped text ++ first) :: later := by
  induction text with
  | nil => exact parts
  | cons c text ih =>
      rw [escaped_cons]
      by_cases special : isSpecial c = true
      · rw [if_pos special]
        change alternatives ('\\' :: c :: (escaped text ++ rest)) = _
        rw [alternatives, ih]
        rfl
      · obtain ⟨noBackslash, noBar⟩ := ne_of_not_isSpecial special
        rw [if_neg special]
        change alternatives (c :: (escaped text ++ rest)) = _
        rw [alternatives_cons_of_ne _ noBackslash noBar, ih]
        rfl

/-- The alternatives of an alternation are the texts that it was made of, each one escaped. -/
theorem alternatives_alternation {texts : List Text} (nonempty : texts ≠ []) :
    alternatives (alternation texts) = texts.map escaped := by
  induction texts with
  | nil => exact absurd rfl nonempty
  | cons text texts ih =>
      cases texts with
      | nil =>
          have alone : alternatives (escaped text ++ []) = [escaped text ++ []] :=
            alternatives_escaped_append text rfl
          rw [List.append_nil] at alone
          rw [alternation, List.map_singleton, Text.joined_singleton, alone]
      | cons next more =>
          have behind : alternatives ('|' :: alternation (next :: more)) =
              [] :: (next :: more).map escaped := by
            rw [alternatives, ih (List.cons_ne_nil _ _)]
          have further := alternatives_escaped_append text behind
          rw [List.append_nil] at further
          rw [alternation, List.map_cons, Text.joined_cons _ _ (by simp)]
          exact further

theorem unescaped_escaped (text : Text) : unescaped (escaped text) = text := by
  induction text with
  | nil => rfl
  | cons c text ih =>
      rw [escaped_cons]
      by_cases special : isSpecial c = true
      · rw [if_pos special]
        exact congrArg (c :: ·) ih
      · rw [if_neg special]
        change unescaped (c :: escaped text) = _
        rw [unescaped_cons_of_ne _ (ne_of_not_isSpecial special).1, ih]

/-- A written alternation is read back as the texts that it was made of. -/
theorem read_alternation {texts : List Text} (nonempty : texts ≠ []) :
    (alternatives (alternation texts)).map unescaped = texts := by
  rw [alternatives_alternation nonempty, List.map_map]
  exact (List.map_congr_left fun text _ => unescaped_escaped text).trans (List.map_id texts)

/-! ### From the longest to the shortest -/

/-- Texts are listed from the longest to the shortest. -/
structure LongestFirst (listed texts : List Text) : Prop where
  /-- What is listed are the texts, each as often as it is given. -/
  perm : listed.Perm texts
  /-- No text comes behind one that takes up fewer bytes. -/
  descending : listed.Pairwise fun first second => second.utf8Length ≤ first.utf8Length
  /-- Texts that take up the same number of bytes come in the order in which they are given. -/
  stable : ∀ length, listed.filter (·.utf8Length = length) = texts.filter (·.utf8Length = length)

/-- Sorting by length lists the texts from the longest to the shortest. -/
theorem longestFirst_longestListed (texts : List Text) : LongestFirst (longestListed texts) texts := by
  have trans : ∀ first second third : Text, decide (second.utf8Length ≤ first.utf8Length) = true →
      decide (third.utf8Length ≤ second.utf8Length) = true →
        decide (third.utf8Length ≤ first.utf8Length) = true := by
    simp only [decide_eq_true_eq]
    omega
  have total : ∀ first second : Text, (decide (second.utf8Length ≤ first.utf8Length) ||
      decide (first.utf8Length ≤ second.utf8Length)) = true := by
    simp only [Bool.or_eq_true, decide_eq_true_eq]
    omega
  have perm : (longestListed texts).Perm texts := List.mergeSort_perm _ _
  refine ⟨perm, ?_, fun length => ?_⟩
  · exact (List.pairwise_mergeSort trans total texts).imp of_decide_eq_true
  · -- the texts of one length are in order already, so that sorting keeps them as they come
    have sorted : (texts.filter (·.utf8Length = length)).Pairwise fun first second =>
        decide (second.utf8Length ≤ first.utf8Length) = true := by
      refine List.pairwise_of_forall_mem_list fun first inFirst second inSecond => ?_
      have firstLength := of_decide_eq_true (List.mem_filter.mp inFirst).2
      have secondLength := of_decide_eq_true (List.mem_filter.mp inSecond).2
      exact decide_eq_true (by omega)
    have kept := (List.sublist_mergeSort trans total sorted List.filter_sublist).filter
      (·.utf8Length = length)
    simp only [List.filter_filter, Bool.and_self] at kept
    exact (kept.eq_of_length (perm.filter _).length_eq.symm).symm

namespace LongestFirst

variable {listed texts : List Text} {text symbol : Text}

/-- What is listed first among the texts that fit is the longest of them: every other one that fits is a
beginning of it. -/
theorem spec_of_find? (lists : LongestFirst listed texts)
    (found : listed.find? (·.isPrefixOf text) = some symbol) :
    symbol ∈ texts ∧ symbol <+: text ∧ ∀ other ∈ texts, other <+: text → other <+: symbol := by
  obtain ⟨fits, earlier, later, order, unfit⟩ := List.find?_eq_some_iff_append.mp found
  have stands : symbol <+: text := List.isPrefixOf_iff_prefix.mp fits
  refine ⟨lists.perm.mem_iff.mp (List.mem_of_find?_eq_some found), stands, fun other member fitsToo => ?_⟩
  rw [← lists.perm.mem_iff, order, List.mem_append, List.mem_cons] at member
  rcases member with before | rfl | behind
  · have absent := unfit other before
    rw [List.isPrefixOf_iff_prefix.mpr fitsToo] at absent
    exact absurd absent (by decide)
  · exact List.prefix_rfl
  · have descending := lists.descending
    rw [order, List.pairwise_append, List.pairwise_cons] at descending
    exact Text.prefix_of_utf8Length_le fitsToo stands (descending.2.1.1 other behind)

/-- The longest text that fits is the one that is listed first among those that fit. -/
theorem find?_eq_some_iff (lists : LongestFirst listed texts) :
    listed.find? (·.isPrefixOf text) = some symbol ↔
      symbol ∈ texts ∧ symbol <+: text ∧ ∀ other ∈ texts, other <+: text → other <+: symbol := by
  refine ⟨lists.spec_of_find?, fun ⟨member, stands, longest⟩ => ?_⟩
  have someFits : (listed.find? (·.isPrefixOf text)).isSome := by
    rw [List.find?_isSome]
    exact ⟨symbol, lists.perm.mem_iff.mpr member, List.isPrefixOf_iff_prefix.mpr stands⟩
  obtain ⟨first, found⟩ := Option.isSome_iff_exists.mp someFits
  obtain ⟨memberFirst, standsFirst, longestFirst⟩ := lists.spec_of_find? found
  have within : symbol <+: first := longestFirst symbol member stands
  have around : first <+: symbol := longest first memberFirst standsFirst
  rw [found, around.eq_of_length_le within.length_le]

end LongestFirst

/-- Fixed texts are matched by the first of them that stands at the place. -/
theorem match?_literals_eq_find? (texts : List Text) (place : Place) :
    (literals texts).match? place = (texts.find? (·.isPrefixOf place.rest)).map place.past := by
  rw [match?_literals]
  induction texts with
  | nil => rfl
  | cons text texts ih =>
      rw [List.findSome?_cons, List.find?_cons]
      by_cases stands : text <+: place.rest
      · rw [Place.after?_of_stands stands, List.isPrefixOf_iff_prefix.mpr stands]
        rfl
      · have absent : text.isPrefixOf place.rest = false :=
          Bool.eq_false_iff.mpr fun fits => stands (List.isPrefixOf_iff_prefix.mp fits)
        rw [Place.after?_eq_none_iff.mpr stands, absent]
        exact ih

end Pattern

/-- The alternatives of a published list of symbols, parted at the bars that are not escaped and with their
escapes undone, are the symbols from the longest to the shortest, those of equal length in the order of the
list. So the first alternative that a text begins with is the longest symbol that it begins with, and the
pattern of the symbols matches just this one. Words are published as the same alternatives, between word
boundaries. -/
theorem Matcher.alternatives_longestFirst (texts : List Text) (nonempty : texts ≠ []) :
    let listed := (Pattern.alternatives (Matcher.symbols texts).written).map Pattern.unescaped
    Pattern.LongestFirst listed texts ∧
      (∀ text symbol, listed.find? (·.isPrefixOf text) = some symbol ↔
        symbol ∈ texts ∧ symbol <+: text ∧ ∀ other ∈ texts, other <+: text → other <+: symbol) ∧
      (∀ place, (Pattern.symbols texts).match? place =
        (listed.find? (·.isPrefixOf place.rest)).map place.past) ∧
      (Matcher.words texts).written =
        "\\b(?:".toList ++ (Matcher.symbols texts).written ++ ")\\b".toList := by
  intro listed
  have lists : Pattern.LongestFirst (Pattern.longestListed texts) texts :=
    Pattern.longestFirst_longestListed texts
  have listedNonempty : Pattern.longestListed texts ≠ [] := by
    intro empty
    rw [empty] at lists
    exact nonempty lists.perm.symm.eq_nil
  have same : listed = Pattern.longestListed texts := Pattern.read_alternation listedNonempty
  rw [same]
  refine ⟨lists, fun text symbol => lists.find?_eq_some_iff, fun place => ?_, ?_⟩
  · exact Pattern.match?_literals_eq_find? _ place
  · simp [Matcher.written, Pattern.words, Pattern.written]

/-- Bars, backslashes, an empty symbol and characters of several bytes can be told apart in what is written;
a bar with a letter behind it goes before the bar, which is listed first. -/
theorem Matcher.alternatives_longestFirst_bars :
    let texts := ["|".toList, [], "é".toList, "\\|".toList, "|b".toList]
    let listed := (Pattern.alternatives (Matcher.symbols texts).written).map Pattern.unescaped
    texts ≠ [] ∧ Pattern.LongestFirst listed texts ∧
      listed.find? (·.isPrefixOf "|b|".toList) = some "|b".toList ∧
      (Matcher.words texts).written =
        "\\b(?:".toList ++ (Matcher.symbols texts).written ++ ")\\b".toList := by
  intro texts listed
  have nonempty : texts ≠ [] := List.cons_ne_nil _ _
  obtain ⟨lists, longest, -, words⟩ := Matcher.alternatives_longestFirst texts nonempty
  refine ⟨nonempty, lists, (longest _ _).mpr ?_, words⟩
  decide

end Lexical
