/-
Module: Lexical.Proofs.Matching
Layer: Proofs
Purpose: The two searches that the grammar needs, settled once for every pattern behind them: a longest run
  whose shorter forms lead nowhere, and a shortest run up to a mark. A pattern is opened one constructor at
  a time, from its left end, and a repetition one character at a time.
Imports: Lexical.Proofs.Passing
Main exports: Text.StopsRun, Text.FirstMark, Pattern.match?_longest_then, Pattern.match?_longest,
  Pattern.match?_shortest_then_literal, Pattern.match?_many1
-/

import Lexical.Proofs.Passing

namespace Lexical

namespace Text

/-- A run of accepted characters cannot go on into the text: it is empty, or its first character is not
accepted. -/
def StopsRun (holds : Char → Bool) (text : Text) : Prop :=
  ∀ c ∈ text.head?, holds c = false

theorem stopsRun_nil (holds : Char → Bool) : StopsRun holds [] := by
  simp [StopsRun]

theorem stopsRun_cons {holds : Char → Bool} {c : Char} {text : Text} :
    StopsRun holds (c :: text) ↔ holds c = false := by
  simp [StopsRun]

theorem stopsRun_of_eq_cons {holds : Char → Bool} {c : Char} {text rest : Text}
    (split : text = c :: rest) (refused : holds c = false) : StopsRun holds text := by
  rw [split]
  exact stopsRun_cons.mpr refused

theorem not_stopsRun_cons {holds : Char → Bool} {c : Char} {text : Text} (held : holds c = true) :
    ¬ StopsRun holds (c :: text) := by
  simp [stopsRun_cons, held]

/-- Accepted characters up to where the run stops are the run. -/
theorem takeWhile_run {holds : Char → Bool} {run rest : Text} (all : ∀ c ∈ run, holds c = true)
    (stops : rest.StopsRun holds) : (run ++ rest).takeWhile holds = run := by
  rw [List.takeWhile_append_of_pos all]
  cases rest with
  | nil => rw [List.takeWhile_nil, List.append_nil]
  | cons c rest =>
      have refused : ¬ holds c = true := Bool.eq_false_iff.mp (stopsRun_cons.mp stops)
      rw [List.takeWhile_cons_of_neg refused, List.append_nil]

/-- Where a larger class stops, a smaller one stops. -/
theorem StopsRun.mono {small large : Char → Bool} {text : Text} (stops : text.StopsRun large)
    (sub : ∀ c, small c = true → large c = true) : text.StopsRun small := by
  intro c atHead
  apply Bool.eq_false_iff.mpr
  intro held
  have heldByLarge := sub c held
  simp [stops c atHead] at heldByLarge

/-- The mark stands directly behind the body and nowhere before. -/
def FirstMark (mark body rest : Text) : Prop :=
  ∀ before c after, body = before ++ c :: after → ¬ mark <+: c :: after ++ (mark ++ rest)

theorem firstMark_nil (mark rest : Text) : FirstMark mark [] rest := by
  intro before c after split
  simp at split

theorem firstMark_cons {mark body rest : Text} {c : Char} :
    FirstMark mark (c :: body) rest ↔
      ¬ mark <+: c :: body ++ (mark ++ rest) ∧ FirstMark mark body rest := by
  constructor
  · intro first
    refine ⟨first [] c body rfl, fun before d after split => ?_⟩
    exact first (c :: before) d after (congrArg (c :: ·) split)
  · rintro ⟨notHere, later⟩ before d after split
    cases before with
    | nil =>
        obtain ⟨rfl, rfl⟩ := List.cons.inj split
        exact notHere
    | cons e before => exact later before d after (List.cons.inj split).2

/-- A mark that stands somewhere in a text stands somewhere first. -/
theorem exists_firstMark (mark body rest : Text) :
    ∃ shorter later, body ++ (mark ++ rest) = shorter ++ (mark ++ later) ∧ shorter <+: body ∧
      FirstMark mark shorter later := by
  induction body with
  | nil => exact ⟨[], rest, rfl, List.prefix_rfl, firstMark_nil mark rest⟩
  | cons c body ih =>
      by_cases here : mark <+: c :: body ++ (mark ++ rest)
      · obtain ⟨later, split⟩ := here
        exact ⟨[], later, split.symm, List.nil_prefix, firstMark_nil mark later⟩
      · obtain ⟨shorter, later, split, stretch, first⟩ := ih
        refine ⟨c :: shorter, later, congrArg (c :: ·) split, ?_, ?_⟩
        · exact (List.prefix_cons_inj c).mpr stretch
        · refine firstMark_cons.mpr ⟨fun stands => here ?_, first⟩
          rwa [List.cons_append, split, ← List.cons_append]

end Text

namespace Pattern

variable {place : Place}

/-! ### Fixed words and single characters -/

/-- Behind fixed words that stand at the place, the match goes on. -/
theorem match?_literal_then {text : Text} (rest : Pattern) (stands : text <+: place.rest) :
    (seq (literal text) rest).match? place = rest.match? (place.past text) := by
  rw [match?_seq, literal, reach, List.filterMap_cons_some (Place.after?_of_stands stands),
    List.filterMap_nil, List.findSome?_singleton]

theorem match?_literal_then_none {text : Text} (rest : Pattern) (absent : ¬ text <+: place.rest) :
    (seq (literal text) rest).match? place = none := by
  rw [match?_seq, literal, reach, List.filterMap_cons_none (Place.after?_eq_none_iff.mpr absent)]
  rfl

/-- One character of a class. -/
theorem match?_one_then {cls : CharClass} {c : Char} {rest : Text} (next : Pattern)
    (split : place.rest = c :: rest) :
    (seq (one cls) next).match? place = if cls.holds c then next.match? (place.past [c]) else none := by
  obtain ⟨before, offset, text⟩ := place
  subst split
  by_cases accepted : cls.holds c = true <;> simp [match?, reach, accepted, Place.past]

theorem match?_one_then_of_nil (cls : CharClass) (next : Pattern) (atEnd : place.rest = []) :
    (seq (one cls) next).match? place = none := by
  obtain ⟨before, offset, text⟩ := place
  subst atEnd
  rfl

/-! ### Repetitions -/

/-- At the end of a text no run is left, whichever is preferred. -/
theorem match?_many_then_of_nil (cls : CharClass) (preference : Preference) (next : Pattern)
    (atEnd : place.rest = []) :
    (seq (many cls preference) next).match? place = next.match? place := by
  have spans : preference.spans cls.holds place = [place] := by
    cases preference
    case longest => exact Place.longestFirst_of_nil cls.holds atEnd
    case shortest => exact Place.shortestFirst_of_nil cls.holds atEnd
  rw [match?_seq, reach, spans, List.findSome?_singleton]

/-- The shortest run that the rest of the pattern can follow: none at all is tried first. -/
theorem match?_shortest_then {cls : CharClass} {c : Char} {rest : Text} (next : Pattern)
    (split : place.rest = c :: rest) :
    (seq (many cls .shortest) next).match? place =
      (next.match? place).or
        (if cls.holds c then (seq (many cls .shortest) next).match? (place.past [c]) else none) := by
  simp only [match?_seq, reach, Preference.spans]
  rw [Place.shortestFirst_of_cons cls.holds split, List.findSome?_cons]
  by_cases accepted : cls.holds c = true
  · rw [if_pos accepted, if_pos accepted]
    cases next.match? place <;> rfl
  · rw [if_neg accepted, if_neg accepted]
    cases next.match? place <;> rfl

/-- The longest run that the rest of the pattern can follow: none at all is tried last. -/
theorem match?_longest_step {cls : CharClass} {c : Char} {rest : Text} (next : Pattern)
    (split : place.rest = c :: rest) :
    (seq (many cls .longest) next).match? place =
      (if cls.holds c then (seq (many cls .longest) next).match? (place.past [c]) else none).or
        (next.match? place) := by
  simp only [match?_seq, reach, Preference.spans]
  rw [Place.longestFirst_of_cons cls.holds split, List.findSome?_append, List.findSome?_singleton]
  by_cases accepted : cls.holds c = true
  · rw [if_pos accepted, if_pos accepted]
  · rw [if_neg accepted, if_neg accepted]
    rfl

/-- A class of at least one character: the first one, and then the longest run. -/
theorem match?_many1_then {cls : CharClass} {c : Char} {rest : Text} (next : Pattern)
    (split : place.rest = c :: rest) :
    (seq (many1 cls) next).match? place =
      if cls.holds c then (seq (many cls .longest) next).match? (place.past [c]) else none := by
  simp only [match?_seq, reach, Preference.spans]
  rw [Place.longestFirst_of_cons cls.holds split, List.dropLast_concat]
  by_cases accepted : cls.holds c = true
  · rw [if_pos accepted, if_pos accepted]
  · rw [if_neg accepted, if_neg accepted]
    rfl

theorem match?_many1 {cls : CharClass} {c : Char} {rest : Text} (split : place.rest = c :: rest) :
    (many1 cls).match? place =
      if cls.holds c then (many cls .longest).match? (place.past [c]) else none := by
  simp only [match?, reach, Preference.spans]
  rw [Place.longestFirst_of_cons cls.holds split, List.dropLast_concat]
  by_cases accepted : cls.holds c = true
  · rw [if_pos accepted, if_pos accepted]
  · rw [if_neg accepted, if_neg accepted]
    rfl

theorem match?_many1_of_nil (cls : CharClass) (atEnd : place.rest = []) :
    (many1 cls).match? place = none := by
  simp only [match?, reach]
  rw [Place.longestFirst_of_nil cls.holds atEnd]
  rfl

/-! ### The three searches -/

section Searches

variable {cls : CharClass} {run body mark rest : Text}

/-- If what follows a run does not match behind any shorter form of it, the longest run decides. -/
theorem match?_longest_then (next : Pattern) (split : place.rest = run ++ rest)
    (accepted : ∀ c ∈ run, cls.holds c = true) (stops : rest.StopsRun cls.holds)
    (shorter : ∀ before c after, run = before ++ c :: after →
      next.match? (place.past before) = none) :
    (seq (many cls .longest) next).match? place = next.match? (place.past run) := by
  induction run generalizing place with
  | nil =>
      cases rest with
      | nil => exact match?_many_then_of_nil cls .longest next split
      | cons c rest =>
          rw [match?_longest_step next split, Text.stopsRun_cons.mp stops]
          rfl
  | cons c run ih =>
      obtain ⟨here, later⟩ := List.forall_mem_cons.mp accepted
      have onward : (seq (many cls .longest) next).match? (place.past [c]) =
          next.match? ((place.past [c]).past run) := by
        apply ih (Place.rest_past split) later
        intro before d after same
        exact shorter (c :: before) d after (congrArg (c :: ·) same)
      have notHere : next.match? place = none := shorter [] c run rfl
      rw [match?_longest_step next split, if_pos here, onward, notHere, Option.or_none]
      rfl

/-- A run by itself is the longest one. -/
theorem match?_longest (split : place.rest = run ++ rest)
    (accepted : ∀ c ∈ run, cls.holds c = true) (stops : rest.StopsRun cls.holds) :
    (many cls .longest).match? place = some (place.past run) := by
  simp only [match?, reach, Preference.spans]
  induction run generalizing place with
  | nil =>
      cases rest with
      | nil =>
          rw [Place.longestFirst_of_nil cls.holds split]
          rfl
      | cons c rest =>
          rw [Place.longestFirst_of_cons cls.holds split, Text.stopsRun_cons.mp stops]
          rfl
  | cons c run ih =>
      obtain ⟨here, later⟩ := List.forall_mem_cons.mp accepted
      rw [Place.longestFirst_of_cons cls.holds split, if_pos here, List.head?_append,
        ih (Place.rest_past split) later]
      rfl

/-- The shortest run up to a mark ends where the mark stands first. -/
theorem match?_shortest_then_literal (split : place.rest = body ++ (mark ++ rest))
    (accepted : ∀ c ∈ body, cls.holds c = true) (first : Text.FirstMark mark body rest) :
    (seq (many cls .shortest) (literal mark)).match? place = some (place.past (body ++ mark)) := by
  induction body generalizing place with
  | nil =>
      have stands : mark <+: place.rest := ⟨rest, split.symm⟩
      have found : (literal mark).match? place = some (place.past mark) := by
        rw [match?_literal, Place.after?_of_stands stands]
      cases text : place.rest with
      | nil => rw [match?_many_then_of_nil cls .shortest _ text, found, List.nil_append]
      | cons c later => rw [match?_shortest_then _ text, found, Option.some_or, List.nil_append]
  | cons c body ih =>
      obtain ⟨here, later⟩ := List.forall_mem_cons.mp accepted
      obtain ⟨notHere, firstLater⟩ := Text.firstMark_cons.mp first
      have absent : place.after? mark = none := by
        rw [Place.after?_eq_none_iff, split]
        exact notHere
      rw [match?_shortest_then _ split, match?_literal, absent, Option.none_or, if_pos here,
        ih (Place.rest_past split) later firstLater]
      rfl

/-- If every way to a mark leads over a character that the class does not hold, there is no match. -/
theorem match?_shortest_then_literal_none
    (blocked : ∀ body rest, place.rest = body ++ (mark ++ rest) → ∃ c ∈ body, cls.holds c = false) :
    (seq (many cls .shortest) (literal mark)).match? place = none := by
  obtain ⟨before, offset, text⟩ := place
  induction text generalizing before offset with
  | nil =>
      rw [match?_many_then_of_nil cls .shortest _ rfl, match?_literal, Place.after?_eq_none_iff]
      rintro ⟨rest, split⟩
      obtain ⟨c, member, _⟩ := blocked [] rest split.symm
      exact absurd member List.not_mem_nil
  | cons c text ih =>
      have absent : ¬ mark <+: c :: text := by
        rintro ⟨rest, split⟩
        obtain ⟨d, member, _⟩ := blocked [] rest split.symm
        exact absurd member List.not_mem_nil
      rw [match?_shortest_then _ rfl, match?_literal, Place.after?_eq_none_iff.mpr absent,
        Option.none_or]
      by_cases accepted : cls.holds c = true
      · rw [if_pos accepted]
        apply ih
        intro body rest split
        obtain ⟨d, member, refused⟩ := blocked (c :: body) rest (congrArg (c :: ·) split)
        rcases List.mem_cons.mp member with rfl | inBody
        · rw [accepted] at refused
          exact absurd refused (by decide)
        · exact ⟨d, inBody, refused⟩
      · rw [if_neg accepted]

end Searches

end Pattern

end Lexical
