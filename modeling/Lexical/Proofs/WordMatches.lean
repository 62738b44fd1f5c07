/-
Module: Lexical.Proofs.WordMatches
Layer: Proofs
Purpose: Where the rules for keywords, identifiers and numbers match. All three begin and end with a word
  boundary. They are looked at from a fresh place, one with no word character before it, since a line is
  read without a fault from such places only. A run of word characters is then a keyword or an identifier
  as a whole or not at all, and digits are a number up to the fraction that is given back where a letter
  follows it.
Imports: Lexical.Proofs.Pieces
Main exports: Place.Fresh, Grammar.keyword_some, Grammar.keyword_none, Grammar.identifier_some,
  Grammar.identifier_none, Grammar.number_whole, Grammar.number_fraction, Grammar.number_broken,
  Grammar.number_brokenFraction
-/

import Lexical.Proofs.Pieces

namespace Lexical

/-- A place is fresh if it is not inside a word: before a word character there is no other one. -/
def Place.Fresh (place : Place) : Prop :=
  place.wordAfter = true → place.wordBefore = false

theorem Place.fresh_start (text : Text) : (Place.start text).Fresh := fun _ => rfl

/-- A place where no word character follows is fresh. -/
theorem Place.fresh_of_stopsRun {place : Place} (ends : place.rest.StopsRun Text.isWord) :
    place.Fresh := by
  intro wordAfter
  cases text : place.rest with
  | nil => simp [Place.wordAfter, text] at wordAfter
  | cons c rest =>
      rw [text] at ends
      simp [Place.wordAfter, text, Text.stopsRun_cons.mp ends] at wordAfter

namespace Grammar

variable {place : Place} {c : Char} {body rest run : Text}

/-! ### Word boundaries -/

/-- Behind a word character a word ends exactly if no word character follows. -/
theorem atWordBoundary_past (last : Char) (split : place.rest = run ++ last :: rest)
    (word : Text.isWord last = true) :
    (place.past (run ++ [last])).atWordBoundary = true ↔ rest.StopsRun Text.isWord := by
  have behind : (place.past (run ++ [last])).rest = rest := by
    apply Place.rest_past
    rw [split, List.append_assoc, List.singleton_append]
  rw [Place.atWordBoundary, Place.wordBefore_past_concat, word, Place.wordAfter, behind]
  cases rest with
  | nil => simp [Text.stopsRun_nil]
  | cons d later => simp [Text.stopsRun_cons]

/-- A word boundary behind a run of word characters, as the end of a pattern. -/
theorem match?_wordBoundary_past (split : place.rest = run ++ rest) (nonempty : run ≠ [])
    (word : ∀ d ∈ run, Text.isWord d = true) :
    (rest.StopsRun Text.isWord →
      Pattern.wordBoundary.match? (place.past run) = some (place.past run)) ∧
      (¬ rest.StopsRun Text.isWord → Pattern.wordBoundary.match? (place.past run) = none) := by
  obtain ⟨before, last, rfl⟩ : ∃ before last, run = before ++ [last] :=
    ⟨_, _, (List.dropLast_concat_getLast nonempty).symm⟩
  have lastWord : Text.isWord last = true := word last (by simp)
  rw [List.append_assoc, List.singleton_append] at split
  have boundary := atWordBoundary_past last split lastWord
  rw [Pattern.match?_wordBoundary]
  constructor
  · intro ends
    rw [if_pos (boundary.mpr ends)]
  · intro goesOn
    rw [if_neg fun atBoundary => goesOn (boundary.mp atBoundary)]

/-- Between two word characters there is no word boundary. -/
theorem no_boundary_inside {before after : Text} (split : place.rest = before ++ c :: after)
    (nonempty : before ≠ []) (all : ∀ d ∈ before, Text.isWord d = true)
    (word : Text.isWord c = true) : Pattern.wordBoundary.match? (place.past before) = none := by
  refine (match?_wordBoundary_past split nonempty all).2 fun ends => ?_
  simp [Text.stopsRun_cons.mp ends] at word

/-! ### Keywords and identifiers -/

/-- A fresh place before a word character is a word boundary. -/
theorem boundary_then (fresh : place.Fresh) (split : place.rest = c :: rest)
    (word : Text.isWord c = true) (pattern : Pattern) :
    (Pattern.seq .wordBoundary pattern).match? place = pattern.match? place := by
  have wordAfter : place.wordAfter = true := by
    rw [Place.wordAfter, split]
    exact word
  have boundary : place.atWordBoundary = true := by
    rw [Place.atWordBoundary, fresh wordAfter, wordAfter]
    rfl
  rw [Pattern.match?_wordBoundary_then, if_pos boundary]

/-- Keywords are words of letters. -/
theorem keywords_letters : ∀ word ∈ keywords, word ≠ [] ∧ ∀ d ∈ word, Text.beginsWord d = true := by
  have all : keywords.all (fun word => !word.isEmpty && word.all Text.beginsWord) = true := by decide
  intro word member
  have letters := List.all_eq_true.mp all word member
  rw [Bool.and_eq_true, Bool.not_eq_true', List.isEmpty_eq_false_iff] at letters
  exact ⟨letters.1, List.all_eq_true.mp letters.2⟩

/-- A keyword with a word boundary behind it is the whole run of word characters. -/
theorem eq_run_of_keyword (split : place.rest = run ++ rest)
    (all : ∀ d ∈ run, Text.continuesWord d = true) (stops : rest.StopsRun Text.continuesWord)
    {word : Text} (member : word ∈ keywords) {later last : Place}
    (stands : place.after? word = some later) (ends : Pattern.wordBoundary.match? later = some last) :
    word = run ∧ rest.StopsRun Text.isWord ∧ last = place.past run := by
  obtain ⟨nonempty, letters⟩ := keywords_letters word member
  obtain ⟨⟨after, whole⟩, rfl⟩ := Place.after?_eq_some_iff.mp stands
  have wordChars : ∀ d ∈ word, Text.isWord d = true := fun d inWord =>
    Text.isWord_of_continuesWord (Text.continuesWord_of_beginsWord (letters d inWord))
  obtain ⟨found, missed⟩ := match?_wordBoundary_past whole.symm nonempty wordChars
  have stopsWord : Text.StopsRun Text.isWord after := by
    apply Classical.byContradiction
    intro goesOn
    rw [missed goesOn] at ends
    exact absurd ends (by simp)
  have lastEq : last = place.past word := by
    rw [found stopsWord] at ends
    exact (Option.some.inj ends).symm
  rw [split] at whole
  rcases List.append_eq_append_iff.mp whole with ⟨more, runEq, afterEq⟩ | ⟨more, wordEq, restEq⟩
  · -- the run goes on behind the keyword: then no boundary would be there
    cases more with
    | nil =>
        rw [List.append_nil] at runEq
        subst runEq
        rw [List.nil_append] at afterEq
        subst afterEq
        exact ⟨rfl, stopsWord, lastEq⟩
    | cons d more =>
        rw [afterEq, List.cons_append, Text.stopsRun_cons] at stopsWord
        have inRun : d ∈ run := by simp [runEq]
        simp [Text.isWord_of_continuesWord (all d inRun)] at stopsWord
  · -- the keyword goes on behind the run: then the run would not be the longest
    cases more with
    | nil =>
        rw [List.append_nil] at wordEq
        subst wordEq
        rw [List.nil_append] at restEq
        subst restEq
        exact ⟨rfl, stopsWord, lastEq⟩
    | cons d more =>
        rw [restEq, List.cons_append, Text.stopsRun_cons] at stops
        have inWord : d ∈ word := by simp [wordEq]
        simp [Text.continuesWord_of_beginsWord (letters d inWord)] at stops

/-- The keyword rule tries all keywords, each up to a word boundary. -/
theorem keyword_match?_eq (fresh : place.Fresh) (split : place.rest = c :: rest)
    (word : Text.isWord c = true) :
    keywordRule.pattern.match? place =
      ((Pattern.longestListed keywords).filterMap place.after?).findSome?
        Pattern.wordBoundary.match? := by
  change (Pattern.words keywords).match? place = _
  rw [Pattern.words, boundary_then fresh split word, Pattern.match?_group_then, Pattern.match?_seq,
    Pattern.symbols, Pattern.reach]

theorem mem_keywords_of_reached {later : Place}
    (reached : later ∈ (Pattern.longestListed keywords).filterMap place.after?) :
    ∃ word ∈ keywords, place.after? word = some later := by
  obtain ⟨word, member, stands⟩ := List.mem_filterMap.mp reached
  exact ⟨word, (List.mergeSort_perm _ _).mem_iff.mp member, stands⟩

section Words

variable {first : Char} (fresh : place.Fresh)
  (split : place.rest = first :: (run ++ rest)) (word : Text.isWord first = true)
  (continues : ∀ d ∈ first :: run, Text.continuesWord d = true)
  (stops : rest.StopsRun Text.continuesWord)

include fresh split word continues stops

/-- The keyword rule matches a run that is a keyword. -/
theorem keyword_some (member : first :: run ∈ keywords) (ends : rest.StopsRun Text.isWord) :
    keywordRule.pattern.match? place = some (place.past (first :: run)) := by
  have wordChars : ∀ d ∈ first :: run, Text.isWord d = true := fun d inRun =>
    Text.isWord_of_continuesWord (continues d inRun)
  rw [keyword_match?_eq fresh split word]
  cases outcome : ((Pattern.longestListed keywords).filterMap place.after?).findSome?
      Pattern.wordBoundary.match? with
  | none =>
      have stands : place.after? (first :: run) = some (place.past (first :: run)) :=
        Place.after?_of_stands ⟨rest, split.symm⟩
      have inList : first :: run ∈ Pattern.longestListed keywords :=
        (List.mergeSort_perm _ _).mem_iff.mpr member
      have missed := List.findSome?_eq_none_iff.mp outcome _
        (List.mem_filterMap.mpr ⟨_, inList, stands⟩)
      rw [(match?_wordBoundary_past split (List.cons_ne_nil _ _) wordChars).1 ends] at missed
      exact absurd missed (by simp)
  | some last =>
      obtain ⟨later, reached, found⟩ := List.exists_of_findSome?_eq_some outcome
      obtain ⟨text, inKeywords, stands⟩ := mem_keywords_of_reached reached
      exact congrArg some (eq_run_of_keyword split continues stops inKeywords stands found).2.2

/-- The keyword rule matches no other run, and none that goes on with a letter of another script. -/
theorem keyword_none (other : ¬ (first :: run ∈ keywords ∧ rest.StopsRun Text.isWord)) :
    keywordRule.pattern.match? place = none := by
  rw [keyword_match?_eq fresh split word]
  rw [List.findSome?_eq_none_iff]
  intro later reached
  apply Option.eq_none_iff_forall_ne_some.mpr
  intro last found
  obtain ⟨text, inKeywords, stands⟩ := mem_keywords_of_reached reached
  obtain ⟨rfl, ends, _⟩ := eq_run_of_keyword split continues stops inKeywords stands found
  exact other ⟨inKeywords, ends⟩

/-- The identifier rule comes down to the word boundary behind the longest run. -/
theorem identifier_match?_eq (begins : Text.beginsWord first = true) :
    identifierRule.pattern.match? place =
      Pattern.wordBoundary.match? (place.past (first :: run)) := by
  change identifierPattern.match? place = _
  rw [identifierPattern, boundary_then fresh split word, Pattern.match?_one_then _ split,
    holds_wordStartClass, begins, if_pos rfl]
  refine Pattern.match?_longest_then _ (Place.rest_past split) (fun d inRun => ?_) (fun d inRest => ?_)
    fun before d after runEq => ?_
  · rw [holds_wordPartClass]
    exact continues d (List.mem_cons_of_mem _ inRun)
  · rw [holds_wordPartClass]
    exact stops d inRest
  · -- inside the run a word character follows
    have splitHere : place.rest = (first :: before) ++ (d :: after ++ rest) := by
      rw [split, runEq, List.cons_append, List.append_assoc]
    have wordChars : ∀ e ∈ first :: before, Text.isWord e = true := by
      intro e inBefore
      refine Text.isWord_of_continuesWord (continues e ?_)
      rw [runEq, ← List.cons_append]
      exact List.mem_append_left _ inBefore
    change Pattern.wordBoundary.match? (place.past (first :: before)) = none
    exact no_boundary_inside splitHere (List.cons_ne_nil _ _) wordChars
      (Text.isWord_of_continuesWord (continues d (by simp [runEq])))

theorem identifier_some (begins : Text.beginsWord first = true) (ends : rest.StopsRun Text.isWord) :
    identifierRule.pattern.match? place = some (place.past (first :: run)) := by
  rw [identifier_match?_eq fresh split word continues stops begins]
  refine (match?_wordBoundary_past split (List.cons_ne_nil _ _) fun d inRun => ?_).1 ends
  exact Text.isWord_of_continuesWord (continues d inRun)

theorem identifier_none (begins : Text.beginsWord first = true)
    (goesOn : ¬ rest.StopsRun Text.isWord) : identifierRule.pattern.match? place = none := by
  rw [identifier_match?_eq fresh split word continues stops begins]
  refine (match?_wordBoundary_past split (List.cons_ne_nil _ _) fun d inRun => ?_).2 goesOn
  exact Text.isWord_of_continuesWord (continues d inRun)

end Words

/-- No keyword and no identifier begins with a character that begins no word. -/
theorem keyword_none_of_head (other : place.rest.StopsRun Text.beginsWord) :
    keywordRule.pattern.match? place = none := by
  have nowhere : (Pattern.seq (.group (.symbols keywords)) .wordBoundary).match? place = none := by
    rw [Pattern.match?_group_then, Pattern.match?_seq, Pattern.symbols, Pattern.reach,
      List.findSome?_eq_none_iff]
    intro later reached
    obtain ⟨text, inKeywords, stands⟩ := mem_keywords_of_reached reached
    obtain ⟨nonempty, letters⟩ := keywords_letters text inKeywords
    obtain ⟨⟨after, whole⟩, -⟩ := Place.after?_eq_some_iff.mp stands
    obtain ⟨d, more, rfl⟩ := List.exists_cons_of_ne_nil nonempty
    have begins := letters d List.mem_cons_self
    simp [other d (by rw [← whole]; rfl)] at begins
  change (Pattern.words keywords).match? place = none
  rw [Pattern.words, Pattern.match?_wordBoundary_then, nowhere]
  exact ite_self _

theorem identifier_none_of_head (other : place.rest.StopsRun Text.beginsWord) :
    identifierRule.pattern.match? place = none := by
  change identifierPattern.match? place = none
  rw [identifierPattern, Pattern.match?_wordBoundary_then]
  cases text : place.rest with
  | nil =>
      rw [Pattern.match?_one_then_of_nil _ _ text]
      exact ite_self _
  | cons c rest =>
      rw [text] at other
      rw [Pattern.match?_one_then _ text, holds_wordStartClass, Text.stopsRun_cons.mp other]
      exact ite_self _

/-! ### Numbers -/

/-- No number begins with a character that is no digit. -/
theorem number_none_of_head (other : place.rest.StopsRun Char.isDigit) :
    numberRule.pattern.match? place = none := by
  change numberPattern.match? place = none
  rw [numberPattern, Pattern.match?_wordBoundary_then]
  cases text : place.rest with
  | nil =>
      rw [Pattern.match?_seq, Pattern.reach, Place.longestFirst_of_nil _ text]
      exact ite_self _
  | cons c rest =>
      rw [text] at other
      rw [Pattern.match?_many1_then _ text, holds_digitClass, Text.stopsRun_cons.mp other]
      exact ite_self _

/-- Digits are passed over as far as they go, if what follows cannot match between two of them. -/
theorem digits_then (next : Pattern) (split : place.rest = run ++ rest) (nonempty : run ≠ [])
    (all : ∀ d ∈ run, d.isDigit = true) (stops : rest.StopsRun Char.isDigit)
    (inside : ∀ before d after, run = before ++ d :: after → before ≠ [] →
      next.match? (place.past before) = none) :
    (Pattern.seq (.many1 digitClass) next).match? place = next.match? (place.past run) := by
  cases run with
  | nil => exact absurd rfl nonempty
  | cons first run =>
      have firstDigit : digitClass.holds first = true := by
        rw [holds_digitClass]
        exact all first List.mem_cons_self
      rw [Pattern.match?_many1_then next split, if_pos firstDigit]
      refine Pattern.match?_longest_then next (Place.rest_past split) (fun d inRun => ?_)
        (fun d inRest => ?_) fun before d after runEq => ?_
      · rw [holds_digitClass]
        exact all d (List.mem_cons_of_mem _ inRun)
      · rw [holds_digitClass]
        exact stops d inRest
      · exact inside (first :: before) d after (congrArg (first :: ·) runEq) (List.cons_ne_nil _ _)

/-- What follows the digits of a number: a fraction if there is one, and the end of the word. -/
def numberTail : Pattern :=
  .seq (.optional (.group (.seq (.literal ['.']) (.many1 digitClass)))) .wordBoundary

theorem numberTail_match?_eq (place : Place) :
    numberTail.match? place =
      ((Pattern.seq (.literal ['.']) (.seq (.many1 digitClass) .wordBoundary)).match? place).or
        (Pattern.wordBoundary.match? place) := by
  rw [numberTail, Pattern.match?_optional_then, Pattern.match?_group_then, Pattern.match?_seq_assoc]

/-- Without a fraction only the end of the word is left. -/
theorem numberTail_of_not_fractionAt (noFraction : ¬ FractionAt place.rest) :
    numberTail.match? place = Pattern.wordBoundary.match? place := by
  rw [numberTail_match?_eq]
  by_cases point : ['.'] <+: place.rest
  · obtain ⟨after, split⟩ := point
    have behind : (place.past ['.']).rest = after := Place.rest_past split.symm
    rw [Pattern.match?_literal_then _ ⟨after, split⟩]
    cases after with
    | nil =>
        rw [Pattern.match?_seq, Pattern.reach, Place.longestFirst_of_nil _ behind]
        rfl
    | cons d after =>
        have notDigit : digitClass.holds d = false := by
          rw [holds_digitClass, Bool.eq_false_iff]
          exact fun digit => noFraction ⟨d, after, split.symm, digit⟩
        rw [Pattern.match?_many1_then _ behind, notDigit]
        rfl
  · rw [Pattern.match?_literal_then_none _ point, Option.none_or]

/-- Digits up to a word boundary. -/
theorem digits_then_boundary (split : place.rest = run ++ rest) (nonempty : run ≠ [])
    (all : ∀ d ∈ run, d.isDigit = true) (stops : rest.StopsRun Char.isDigit) :
    (Pattern.seq (.many1 digitClass) .wordBoundary).match? place =
      Pattern.wordBoundary.match? (place.past run) := by
  apply digits_then _ split nonempty all stops
  intro before d after runEq someBefore
  have splitHere : place.rest = before ++ d :: (after ++ rest) := by
    rw [split, runEq, List.append_assoc, List.cons_append]
  refine no_boundary_inside splitHere someBefore (fun e inBefore => ?_) ?_
  · exact Text.isWord_of_isDigit (all e (by simp [runEq, inBefore]))
  · exact Text.isWord_of_isDigit (all d (by simp [runEq]))

/-- The end of the word behind digits. -/
theorem digits_boundary (split : place.rest = run ++ rest) (nonempty : run ≠ [])
    (all : ∀ d ∈ run, d.isDigit = true) :
    (rest.StopsRun Text.isWord →
      Pattern.wordBoundary.match? (place.past run) = some (place.past run)) ∧
      (¬ rest.StopsRun Text.isWord → Pattern.wordBoundary.match? (place.past run) = none) :=
  match?_wordBoundary_past split nonempty fun d inRun => Text.isWord_of_isDigit (all d inRun)

section Numbers

variable (fresh : place.Fresh) (split : place.rest = run ++ rest) (nonempty : run ≠ [])
  (all : ∀ d ∈ run, d.isDigit = true)

include fresh split nonempty all

/-- The number rule comes down to what follows the digits. -/
theorem number_match?_eq (stops : rest.StopsRun Char.isDigit) :
    numberRule.pattern.match? place = numberTail.match? (place.past run) := by
  obtain ⟨first, more, runEq⟩ := List.exists_cons_of_ne_nil nonempty
  have splitFirst : place.rest = first :: (more ++ rest) := by rw [split, runEq, List.cons_append]
  have firstWord : Text.isWord first = true := Text.isWord_of_isDigit (all first (by simp [runEq]))
  change numberPattern.match? place = _
  rw [numberPattern, boundary_then fresh splitFirst firstWord]
  apply digits_then _ split nonempty all stops
  intro before d after inside someBefore
  have splitHere : place.rest = before ++ d :: (after ++ rest) := by
    rw [split, inside, List.append_assoc, List.cons_append]
  have digit : d.isDigit = true := all d (by simp [inside])
  have noFraction : ¬ FractionAt (place.past before).rest := by
    rintro ⟨e, later, same, _⟩
    rw [Place.rest_past splitHere] at same
    simp [(List.cons.inj same).1] at digit
  have noTail := numberTail_of_not_fractionAt noFraction
  rw [numberTail] at noTail
  rw [noTail]
  refine no_boundary_inside splitHere someBefore (fun e inBefore => ?_) (Text.isWord_of_isDigit digit)
  exact Text.isWord_of_isDigit (all e (by simp [inside, inBefore]))

theorem number_whole (ends : rest.StopsRun Text.isWord) (noFraction : ¬ FractionAt rest) :
    numberRule.pattern.match? place = some (place.past run) := by
  have stops : rest.StopsRun Char.isDigit := ends.mono fun _ => Text.isWord_of_isDigit
  rw [number_match?_eq fresh split nonempty all stops, numberTail_of_not_fractionAt]
  · exact (digits_boundary split nonempty all).1 ends
  · rwa [Place.rest_past split]

/-- Digits that go on with a letter are no number. -/
theorem number_broken (stops : rest.StopsRun Char.isDigit) (goesOn : ¬ rest.StopsRun Text.isWord) :
    numberRule.pattern.match? place = none := by
  rw [number_match?_eq fresh split nonempty all stops, numberTail_of_not_fractionAt]
  · exact (digits_boundary split nonempty all).2 goesOn
  · rw [Place.rest_past split]
    rintro ⟨d, later, rfl, _⟩
    exact goesOn (Text.stopsRun_cons.mpr (by decide))

section Fractions

variable {decimals after : Text} (point : rest = '.' :: (decimals ++ after))
  (nonemptyDecimals : decimals ≠ []) (allDecimals : ∀ d ∈ decimals, d.isDigit = true)
  (stops : after.StopsRun Char.isDigit)

include point nonemptyDecimals allDecimals stops

/-- With a fraction, its end is looked at first, and then the end of the digits before it, which is one. -/
theorem number_match?_eq_of_fraction :
    numberRule.pattern.match? place =
      (Pattern.wordBoundary.match? (place.past (run ++ '.' :: decimals))).or
        (some (place.past run)) := by
  have pointEnds : rest.StopsRun Text.isWord := Text.stopsRun_of_eq_cons point rfl
  have behind : (place.past run).rest = '.' :: (decimals ++ after) := by
    rw [Place.rest_past split, point]
  have behindPoint : ((place.past run).past ['.']).rest = decimals ++ after := Place.rest_past behind
  rw [number_match?_eq fresh split nonempty all (pointEnds.mono fun _ => Text.isWord_of_isDigit),
    numberTail_match?_eq, Pattern.match?_literal_then _ ⟨_, behind.symm⟩,
    digits_then_boundary behindPoint nonemptyDecimals allDecimals stops,
    (digits_boundary split nonempty all).1 pointEnds, ← Place.past_append, ← Place.past_append,
    List.singleton_append]

theorem number_fraction (ends : after.StopsRun Text.isWord) :
    numberRule.pattern.match? place = some (place.past (run ++ '.' :: decimals)) := by
  have splitWhole : place.rest = (run ++ ['.']) ++ (decimals ++ after) := by
    rw [split, point, List.append_assoc, List.singleton_append]
  have boundary := (digits_boundary (Place.rest_past splitWhole) nonemptyDecimals allDecimals).1 ends
  rw [← Place.past_append, List.append_assoc, List.singleton_append] at boundary
  rw [number_match?_eq_of_fraction fresh split nonempty all point nonemptyDecimals allDecimals stops,
    boundary, Option.some_or]

/-- A fraction that goes on with a letter is given back. -/
theorem number_brokenFraction (goesOn : ¬ after.StopsRun Text.isWord) :
    numberRule.pattern.match? place = some (place.past run) := by
  have splitWhole : place.rest = (run ++ ['.']) ++ (decimals ++ after) := by
    rw [split, point, List.append_assoc, List.singleton_append]
  have boundary := (digits_boundary (Place.rest_past splitWhole) nonemptyDecimals allDecimals).2 goesOn
  rw [← Place.past_append, List.append_assoc, List.singleton_append] at boundary
  rw [number_match?_eq_of_fraction fresh split nonempty all point nonemptyDecimals allDecimals stops,
    boundary, Option.none_or]

end Fractions

end Numbers

end Grammar

end Lexical
