/-
Module: Lexical.Proofs.Passing
Layer: Proofs
Purpose: Passing over text. A match, a gap and a fixed text all take a place to the place behind some
  stretch of the text; `Place.past` is that place, and the lemmas say what it knows of the text. Every
  place that a pattern can reach is of this form (`Pattern.reach_past`), so that a match is determined by
  the stretch it passes over.
Imports: Lexical.Pattern.Basic
Main exports: Place.past, Place.past_append, Place.textUntil_past, Place.after?_eq_some_iff,
  Pattern.reach_past, Pattern.match?_past
-/

import Lexical.Pattern.Basic

namespace Lexical

namespace Place

/-- The place behind the passed text. -/
def past (place : Place) : Text → Place
  | [] => place
  | c :: passed =>
      past { before := some c, offset := place.offset + 1, rest := place.rest.tail } passed

@[simp] theorem past_nil (place : Place) : place.past [] = place := rfl

/-- Passing over one text and then another is passing over both. -/
theorem past_append (place : Place) (first second : Text) :
    place.past (first ++ second) = (place.past first).past second := by
  induction first generalizing place with
  | nil => rfl
  | cons c first ih => exact ih _

@[simp] theorem offset_past (place : Place) (passed : Text) :
    (place.past passed).offset = place.offset + passed.length := by
  induction passed generalizing place with
  | nil => rfl
  | cons c passed ih =>
      rw [past, ih, List.length_cons, Nat.add_assoc, Nat.add_comm 1]

theorem column_past (place : Place) (passed : Text) :
    (place.past passed).column = place.column + passed.length := by
  simp only [column, offset_past]
  omega

theorem rest_past_eq_drop (place : Place) (passed : Text) :
    (place.past passed).rest = place.rest.drop passed.length := by
  induction passed generalizing place with
  | nil => rfl
  | cons c passed ih =>
      rw [past, ih, List.length_cons, ← List.drop_one, List.drop_drop, Nat.add_comm]

/-- What stands behind the passed text is the rest. -/
theorem rest_past {place : Place} {passed rest : Text} (split : place.rest = passed ++ rest) :
    (place.past passed).rest = rest := by
  rw [rest_past_eq_drop, split, List.drop_left]

/-- The character before the place is the last one that was passed. -/
@[simp] theorem wordBefore_past_concat (place : Place) (passed : Text) (c : Char) :
    (place.past (passed ++ [c])).wordBefore = Text.isWord c := by
  rw [past_append]
  rfl

/-- The text between a place and the place behind a passed text is the passed text. -/
theorem textUntil_past {place : Place} {passed rest : Text} (split : place.rest = passed ++ rest) :
    place.textUntil (place.past passed) = passed := by
  rw [textUntil, offset_past, Nat.add_sub_cancel_left, split, List.take_left]

/-- A place is the place behind nothing else than what it passed. -/
theorem past_injective {place : Place} {first second rest later : Text}
    (splitFirst : place.rest = first ++ rest) (splitSecond : place.rest = second ++ later)
    (same : place.past first = place.past second) : first = second := by
  rw [← textUntil_past splitFirst, same, textUntil_past splitSecond]

/-- Fixed words stand at a place exactly if the rest of the text begins with them. -/
theorem after?_eq_some_iff {place later : Place} {words : Text} :
    place.after? words = some later ↔ words <+: place.rest ∧ later = place.past words := by
  induction words generalizing place with
  | nil => simp [after?, eq_comm]
  | cons expected words ih =>
      obtain ⟨before, offset, rest⟩ := place
      cases rest with
      | nil => simp [after?]
      | cons c rest =>
          by_cases same : c = expected
          · subst same
            simp only [after?, if_true, ih, past, List.tail_cons, List.cons_prefix_cons, true_and]
          · have other : ¬ expected = c := fun equal => same equal.symm
            simp [after?, same, other, List.cons_prefix_cons]

/-- Where fixed words stand, the place behind them is reached. -/
theorem after?_of_stands {place : Place} {words : Text} (stands : words <+: place.rest) :
    place.after? words = some (place.past words) :=
  after?_eq_some_iff.mpr ⟨stands, rfl⟩

theorem after?_eq_none_iff {place : Place} {words : Text} :
    place.after? words = none ↔ ¬ words <+: place.rest := by
  rw [Option.eq_none_iff_forall_ne_some]
  constructor
  · intro never stands
    exact never _ (after?_of_stands stands)
  · intro absent later reached
    exact absent (after?_eq_some_iff.mp reached).1

/-! ### Runs of accepted characters -/

/-- At the end of the text only the place itself is reached. -/
theorem shortestFirst_of_nil {place : Place} (holds : Char → Bool) (atEnd : place.rest = []) :
    place.shortestFirst holds = [place] := by
  obtain ⟨before, offset, rest⟩ := place
  subst atEnd
  rfl

/-- Before a character, the place itself comes first and then what is reached from behind it. -/
theorem shortestFirst_of_cons {place : Place} (holds : Char → Bool) {c : Char} {rest : Text}
    (split : place.rest = c :: rest) :
    place.shortestFirst holds =
      place :: if holds c then (place.past [c]).shortestFirst holds else [] := by
  obtain ⟨before, offset, rest⟩ := place
  subst split
  exact shortestFirst_cons holds before offset c _

theorem longestFirst_of_nil {place : Place} (holds : Char → Bool) (atEnd : place.rest = []) :
    place.longestFirst holds = [place] := by
  rw [longestFirst_eq_reverse, shortestFirst_of_nil holds atEnd]
  rfl

/-- Before a character, what is reached from behind it comes first and the place itself last. -/
theorem longestFirst_of_cons {place : Place} (holds : Char → Bool) {c : Char} {rest : Text}
    (split : place.rest = c :: rest) :
    place.longestFirst holds =
      (if holds c then (place.past [c]).longestFirst holds else []) ++ [place] := by
  rw [longestFirst_eq_reverse, shortestFirst_of_cons holds split, List.reverse_cons]
  by_cases accepted : holds c = true
  · rw [if_pos accepted, if_pos accepted, longestFirst_eq_reverse]
  · rw [if_neg accepted, if_neg accepted, List.reverse_nil]

/-- Only accepted characters are passed over. -/
theorem past_of_mem_shortestFirst {holds : Char → Bool} {place later : Place}
    (reached : later ∈ place.shortestFirst holds) :
    ∃ passed, place.rest = passed ++ later.rest ∧ later = place.past passed ∧
      ∀ c ∈ passed, holds c = true := by
  obtain ⟨before, offset, rest⟩ := place
  induction rest generalizing before offset with
  | nil =>
      rw [shortestFirst_of_nil holds rfl, List.mem_singleton] at reached
      exact ⟨[], by simp [reached], by simp [reached], by simp⟩
  | cons c rest ih =>
      rw [shortestFirst_of_cons holds rfl, List.mem_cons] at reached
      rcases reached with rfl | further
      · exact ⟨[], rfl, rfl, by simp⟩
      · by_cases accepted : holds c = true
        · rw [if_pos accepted] at further
          obtain ⟨passed, split, behind, all⟩ := ih _ _ further
          exact ⟨c :: passed, congrArg (c :: ·) split, behind, List.forall_mem_cons.mpr ⟨accepted, all⟩⟩
        · rw [if_neg accepted] at further
          exact absurd further List.not_mem_nil

theorem past_of_mem_longestFirst {holds : Char → Bool} {place later : Place}
    (reached : later ∈ place.longestFirst holds) :
    ∃ passed, place.rest = passed ++ later.rest ∧ later = place.past passed ∧
      ∀ c ∈ passed, holds c = true := by
  rw [longestFirst_eq_reverse, List.mem_reverse] at reached
  exact past_of_mem_shortestFirst reached

end Place

namespace Pattern

/-- Fixed texts reach the places behind those of them that stand at the place. -/
theorem past_of_mem_reach_literals {texts : List Text} {place later : Place}
    (reached : later ∈ (literals texts).reach place) :
    ∃ words ∈ texts, place.rest = words ++ later.rest ∧ later = place.past words := by
  obtain ⟨words, member, found⟩ := List.mem_filterMap.mp reached
  obtain ⟨⟨rest, split⟩, rfl⟩ := Place.after?_eq_some_iff.mp found
  exact ⟨words, member, by rw [Place.rest_past split.symm, split], rfl⟩

/-- Whatever the pattern, every place that it reaches is the place behind a stretch of the text. -/
theorem reach_past {pattern : Pattern} {place later : Place} (reached : later ∈ pattern.reach place) :
    ∃ passed, place.rest = passed ++ later.rest ∧ later = place.past passed := by
  induction pattern generalizing place later with
  | literals texts =>
      obtain ⟨words, _, split, behind⟩ := past_of_mem_reach_literals reached
      exact ⟨words, split, behind⟩
  | one cls =>
      obtain ⟨before, offset, rest⟩ := place
      cases rest with
      | nil => simp [reach] at reached
      | cons c rest =>
          by_cases accepted : cls.holds c = true
          · simp only [reach, accepted, if_true, List.mem_singleton] at reached
            subst reached
            exact ⟨[c], rfl, rfl⟩
          · simp [reach, accepted] at reached
  | many cls preference =>
      cases preference with
      | longest =>
          obtain ⟨passed, split, behind, _⟩ := Place.past_of_mem_longestFirst reached
          exact ⟨passed, split, behind⟩
      | shortest =>
          obtain ⟨passed, split, behind, _⟩ := Place.past_of_mem_shortestFirst reached
          exact ⟨passed, split, behind⟩
  | many1 cls =>
      obtain ⟨passed, split, behind, _⟩ :=
        Place.past_of_mem_longestFirst (List.dropLast_subset _ reached)
      exact ⟨passed, split, behind⟩
  | wordBoundary | textStart | textEnd =>
      simp only [reach] at reached
      split at reached
      · rw [List.mem_singleton] at reached
        exact ⟨[], by rw [reached]; rfl, by rw [reached]; rfl⟩
      · exact absurd reached List.not_mem_nil
  | seq first second ihFirst ihSecond =>
      obtain ⟨middle, toMiddle, onward⟩ := List.mem_flatMap.mp reached
      obtain ⟨passed, split, rfl⟩ := ihFirst toMiddle
      obtain ⟨further, splitFurther, rfl⟩ := ihSecond onward
      refine ⟨passed ++ further, ?_, (Place.past_append place passed further).symm⟩
      rw [split, splitFurther, List.append_assoc]
  | alt first second ihFirst ihSecond =>
      rcases List.mem_append.mp reached with byFirst | bySecond
      · exact ihFirst byFirst
      · exact ihSecond bySecond
  | optional inner ih =>
      rcases List.mem_append.mp reached with byInner | here
      · exact ih byInner
      · rw [List.mem_singleton] at here
        exact ⟨[], by rw [here]; rfl, by rw [here]; rfl⟩
  | group inner ih => exact ih reached

/-- A match ends behind a stretch of the text. -/
theorem match?_past {pattern : Pattern} {place later : Place}
    (found : pattern.match? place = some later) :
    ∃ passed, place.rest = passed ++ later.rest ∧ later = place.past passed :=
  reach_past (List.mem_of_head? found)

end Pattern

end Lexical
