/-
Module: Lexical.Proofs.LineMatches
Layer: Proofs
Purpose: All matches of the rules on a line, also those behind a fault, and which of them a reading keeps.
  A pattern that consumes takes at least one character in every match, and of the rules only the one for
  blank lines does not; so the walk of the rules over a line always moves on (`advances_rules`) and its
  segments start one behind the other. A reading keeps every match of a rule that gives lexemes, up to the
  first segment that is rejected (`lexemes_readLine`).
Imports: Lexical.Proofs.LineReading
Main exports: Pattern.consumes, Pattern.offset_lt_of_consumes, advances_rules,
  Segment.offered?, Grammar.offered, judge_cases, lexemes_readLine
-/

import Lexical.Proofs.LineReading

namespace Lexical

/-! ### Patterns that consume -/

namespace Pattern

/-- Whether every match of the pattern takes at least one character. -/
def consumes : Pattern → Bool
  | .literals texts => texts.all (· ≠ [])
  | .one _ => true
  | .many _ _ => false
  | .many1 _ => true
  | .wordBoundary => false
  | .textStart => false
  | .textEnd => false
  | .seq first second => first.consumes || second.consumes
  | .alt first second => first.consumes && second.consumes
  | .optional _ => false
  | .group inner => inner.consumes

/-- A pattern never reaches back. -/
theorem offset_le_of_reach {pattern : Pattern} {place later : Place} (reached : later ∈ pattern.reach place) :
    place.offset ≤ later.offset := by
  obtain ⟨passed, -, rfl⟩ := reach_past reached
  simp

/-- A pattern that consumes reaches only places farther on. -/
theorem offset_lt_of_consumes {pattern : Pattern} {place later : Place} (consuming : pattern.consumes = true)
    (reached : later ∈ pattern.reach place) : place.offset < later.offset := by
  induction pattern generalizing place later with
  | literals texts =>
      obtain ⟨words, listed, found⟩ := List.mem_filterMap.mp reached
      obtain ⟨-, rfl⟩ := Place.after?_eq_some_iff.mp found
      have nonempty : words ≠ [] := by simpa using List.all_eq_true.mp consuming words listed
      have positive := List.length_pos_iff.mpr nonempty
      simp only [Place.offset_past]
      omega
  | one cls =>
      cases text : place.rest with
      | nil => simp [reach, text] at reached
      | cons c rest =>
          by_cases accepted : cls.holds c = true
          · simp only [reach, text, accepted, if_true, List.mem_singleton] at reached
            simp [reached]
          · simp [reach, text, accepted] at reached
  | many1 cls =>
      cases text : place.rest with
      | nil => simp [reach, Place.longestFirst_of_nil cls.holds text] at reached
      | cons c rest =>
          rw [reach, Place.longestFirst_of_cons cls.holds text, List.dropLast_concat] at reached
          split at reached
          · obtain ⟨passed, -, rfl, -⟩ := Place.past_of_mem_longestFirst reached
            simp only [Place.offset_past, List.length_singleton]
            omega
          · simp at reached
  | many | wordBoundary | textStart | textEnd | optional => simp [consumes] at consuming
  | seq first second ihFirst ihSecond =>
      obtain ⟨middle, toMiddle, onward⟩ := List.mem_flatMap.mp reached
      have untilMiddle := offset_le_of_reach toMiddle
      have fromMiddle := offset_le_of_reach onward
      rw [consumes, Bool.or_eq_true] at consuming
      rcases consuming with byFirst | bySecond
      · exact Nat.lt_of_lt_of_le (ihFirst byFirst toMiddle) fromMiddle
      · exact Nat.lt_of_le_of_lt untilMiddle (ihSecond bySecond onward)
  | alt first second ihFirst ihSecond =>
      rw [consumes, Bool.and_eq_true] at consuming
      rcases List.mem_append.mp reached with byFirst | bySecond
      · exact ihFirst consuming.1 byFirst
      · exact ihSecond consuming.2 bySecond
  | group inner ih => exact ih consuming reached

/-- Symbols consume if none of them is empty. -/
theorem consumes_symbols {texts : List Text} (nonempty : ∀ text ∈ texts, text ≠ []) :
    (symbols texts).consumes = true := by
  simp only [symbols, consumes, List.all_eq_true, decide_eq_true_eq]
  intro text listed
  exact nonempty text (List.mem_mergeSort.mp listed)

/-- Words consume if none of them is empty. -/
theorem consumes_words {texts : List Text} (nonempty : ∀ text ∈ texts, text ≠ []) :
    (words texts).consumes = true := by
  simp [words, consumes, consumes_symbols nonempty]

end Pattern

namespace Grammar

/-- Only the rule for blank lines can match nothing. -/
theorem consumes_of_mem_rules {rule : Rule} (member : rule ∈ rules) :
    rule.pattern.consumes = true ∨ rule = blankRule := by
  simp only [rules, List.mem_cons, List.not_mem_nil, or_false] at member
  rcases member with rfl | rfl | rfl | rfl | rfl | rfl | rfl | rfl | rfl | rfl | rfl | rfl | rfl
  · exact Or.inl (Pattern.consumes_words (by decide))
  · exact Or.inl rfl
  · exact Or.inl (Pattern.consumes_symbols (by decide))
  · exact Or.inl (Pattern.consumes_symbols (by decide))
  · exact Or.inl (Pattern.consumes_symbols (by decide))
  · exact Or.inl (Pattern.consumes_symbols (by decide))
  · exact Or.inl (Pattern.consumes_symbols (by decide))
  · exact Or.inl rfl
  · exact Or.inl rfl
  · exact Or.inl rfl
  · exact Or.inl rfl
  · exact Or.inr rfl
  · exact Or.inl rfl

/-- What the rules find is a stretch of the line, and an empty one only at its end. -/
theorem advances_rules : Advances (firstMatch? rules) := by
  intro place found later finds
  obtain ⟨member, reached⟩ := mem_of_firstMatch? finds
  obtain ⟨passed, split, rfl⟩ := Pattern.match?_past reached
  refine ⟨passed, _, split, rfl, ?_⟩
  rintro rfl
  rcases consumes_of_mem_rules member with consuming | rfl
  · have onward := Pattern.offset_lt_of_consumes consuming (List.mem_of_head? reached)
    exact absurd onward (Nat.lt_irrefl _)
  · rw [blank_match?_eq rfl] at reached
    split at reached
    · have whole : place.past place.rest = place.past [] := Option.some.inj reached
      have passedAll := Place.past_injective (List.append_nil _).symm rfl whole
      simpa using passedAll
    · simp at reached

end Grammar

/-! ### What a line offers -/

/-- The lexeme that a segment offers: a match of a rule that gives lexemes, however it is judged. -/
def Segment.offered? : Segment Rule → Option Lexeme
  | .gap _ _ => none
  | .hit rule first last =>
      match rule.action with
      | .skip => none
      | .emit category => some { category, literal := first.textUntil last, column := first.column }

/-- Everything that the matches of a grammar offer on a line, from its start to its end. -/
def Grammar.offered (grammar : Grammar) (line : Text) : List Lexeme :=
  (segments grammar.firstMatch? line).filterMap Segment.offered?

theorem Segment.column_of_offered {segment : Segment Rule} {lexeme : Lexeme}
    (offers : segment.offered? = some lexeme) : lexeme.column = segment.start.column := by
  cases segment with
  | gap => simp [offered?] at offers
  | hit rule first last =>
      cases action : rule.action with
      | skip => simp [offered?, action] at offers
      | emit category =>
          simp only [offered?, action, Option.some.injEq] at offers
          rw [← offers]
          rfl

/-- A segment that is skipped offers nothing, one that is accepted offers what is accepted, and a fault
stands where its segment starts. -/
theorem judge_cases (segment : Segment Rule) :
    (judge segment = .skip ∧ segment.offered? = none) ∨
      (∃ lexeme, judge segment = .accept lexeme ∧ segment.offered? = some lexeme) ∨
        ∃ misreading, judge segment = .reject misreading ∧
          misreading.column = segment.start.column := by
  cases segment with
  | gap place c =>
      by_cases blank : Text.isBlank c = true
      · exact Or.inl ⟨by simp [judge, blank], rfl⟩
      · exact Or.inr (Or.inr ⟨_, by simp [judge, blank]; rfl, rfl⟩)
  | hit rule first last =>
      cases action : rule.action with
      | skip => exact Or.inl ⟨by simp [judge, action], by simp [Segment.offered?, action]⟩
      | emit category =>
          cases category with
          | unknown => exact Or.inr (Or.inr ⟨_, by simp [judge, action]; rfl, rfl⟩)
          | char =>
              by_cases short : (enclosed (first.textUntil last)).length ≤ 1
              · exact Or.inr (Or.inl ⟨_, by simp [judge, action, short]; rfl,
                  by simp [Segment.offered?, action]⟩)
              · exact Or.inr (Or.inr ⟨_, by simp [judge, action, short]; rfl, rfl⟩)
          | _ =>
              exact Or.inr (Or.inl ⟨_, by simp [judge, action]; rfl, by simp [Segment.offered?, action]⟩)

/-- Segments that start one behind the other are kept up to the one that is rejected. -/
theorem lexemes_readSegments {parts : List (Segment Rule)}
    (ordered : parts.Pairwise fun first second => first.start.offset < second.start.offset) :
    ((readSegments parts).misreading? = none →
        (readSegments parts).lexemes = parts.filterMap Segment.offered?) ∧
      ∀ misreading, (readSegments parts).misreading? = some misreading →
        (∃ segment ∈ parts, misreading.column = segment.start.column) ∧
          (readSegments parts).lexemes =
            (parts.filterMap Segment.offered?).filter (·.column < misreading.column) := by
  induction parts with
  | nil => simp
  | cons segment parts ih =>
      obtain ⟨behind, orderedLater⟩ := List.pairwise_cons.mp ordered
      obtain ⟨whole, upto⟩ := ih orderedLater
      rw [readSegments_cons]
      rcases judge_cases segment with ⟨judged, offers⟩ | ⟨lexeme, judged, offers⟩ |
        ⟨rejected, judged, place⟩
      · rw [judged, Verdict.prepend, List.filterMap_cons_none offers]
        refine ⟨whole, fun misreading fails => ?_⟩
        obtain ⟨⟨later, member, column⟩, kept⟩ := upto misreading fails
        exact ⟨⟨later, List.mem_cons_of_mem _ member, column⟩, kept⟩
      · rw [judged, Verdict.prepend, List.filterMap_cons_some offers]
        refine ⟨fun succeeds => congrArg (lexeme :: ·) (whole succeeds), fun misreading fails => ?_⟩
        obtain ⟨⟨later, member, column⟩, kept⟩ := upto misreading fails
        have before : lexeme.column < misreading.column := by
          have further := behind later member
          rw [Segment.column_of_offered offers, column, Place.column, Place.column]
          omega
        refine ⟨⟨later, List.mem_cons_of_mem _ member, column⟩, ?_⟩
        rw [List.filter_cons_of_pos (by simpa using before), ← kept]
      · rw [judged, Verdict.prepend]
        refine ⟨by simp, fun misreading fails => ?_⟩
        obtain rfl := Option.some.inj fails
        refine ⟨⟨segment, List.mem_cons_self, place⟩, ?_⟩
        symm
        rw [List.filter_eq_nil_iff]
        intro lexeme member
        -- nothing that is offered stands before the place of the fault
        obtain ⟨source, among, offers⟩ := List.mem_filterMap.mp member
        have notBefore : segment.start.offset ≤ source.start.offset := by
          rcases List.mem_cons.mp among with rfl | further
          · exact Nat.le_refl _
          · exact Nat.le_of_lt (behind source further)
        rw [Segment.column_of_offered offers, place, Place.column, Place.column]
        simpa using notBefore

/-- The lexemes of a line without a fault are all that it offers, and those of a line with a fault are what
it offers before the column of the fault. -/
theorem lexemes_readLine (line : Text) :
    ((readLine line).misreading? = none → (readLine line).lexemes = Grammar.rules.offered line) ∧
      ∀ misreading, (readLine line).misreading? = some misreading →
        (readLine line).lexemes = (Grammar.rules.offered line).filter (·.column < misreading.column) := by
  obtain ⟨whole, upto⟩ := lexemes_readSegments (walk_segments Grammar.advances_rules line).pairwise_start
  exact ⟨whole, fun misreading fails => (upto misreading fails).2⟩

end Lexical
