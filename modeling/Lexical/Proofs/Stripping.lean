/-
Module: Lexical.Proofs.Stripping
Layer: Proofs
Purpose: What the removal of comments looks for, said without patterns, and how it cuts a source up.
  `Comment.Stands found passed rest` says that where a text goes on with the passed stretch and then the
  rest, the stretch is what is found. What is found depends on the text from there on alone, so a source is
  cut into parts from left to right (`Comment.Parted`), and the stripped source is made of what each part
  shows.
Imports: Lexical.Comment, Lexical.Proofs.Pieces, Lexical.Proofs.Walk
Main exports: Comment.Stands, Comment.find_cases, Comment.stands_of_find, Comment.clear_of_find,
  Comment.Parted, Comment.parts, Comment.parted_parts, Comment.strip_nil, Comment.strip_gap,
  Comment.strip_hit
-/

import Lexical.Comment
import Lexical.Proofs.Pieces
import Lexical.Proofs.Walk

namespace Lexical.Comment

variable {place : Place} {body rest : Text}

/-- Where a text begins with the stretch and goes on with the rest, the stretch is what is found. -/
inductive Stands : Covered → Text → Text → Prop where
  /-- A quotation mark up to the next one on the same line. -/
  | string {body rest : Text} (free : '"' ∉ body) (oneLine : '\n' ∉ body) :
      Stands .string ('"' :: (body ++ ['"'])) rest
  /-- `/*` up to the first `*/` that starts behind these two characters. -/
  | block {body rest : Text} (first : ¬ ['*', '/'] <:+: body ++ ['*']) :
      Stands .block ('/' :: '*' :: (body ++ ['*', '/'])) rest
  /-- Two slashes, with everything to the end of the line. -/
  | line {body rest : Text} (oneLine : '\n' ∉ body) (ends : rest.StopsRun (· ≠ '\n')) :
      Stands .line ('/' :: '/' :: body) rest

/-- Nothing is found at the start of the text. -/
def Clear (text : Text) : Prop :=
  ∀ found passed rest, Stands found passed rest → text ≠ passed ++ rest

theorem Stands.passed_ne_nil {found : Covered} {passed : Text} (stands : Stands found passed rest) :
    passed ≠ [] := by
  cases stands <;> exact List.cons_ne_nil _ _

/-- A quotation mark at a clear place is not closed on its line. -/
theorem Clear.unclosed (clear : Clear ('"' :: (body ++ '"' :: rest))) : '\n' ∈ body := by
  apply Decidable.byContradiction
  intro oneLine
  obtain ⟨shorter, later, closed, stretch, first⟩ := Text.exists_firstMark ['"'] body rest
  have oneLineShorter : '\n' ∉ shorter := fun member => oneLine (stretch.subset member)
  apply clear _ _ later (.string (Text.firstMark_singleton.mp first) oneLineShorter)
  simpa using closed

/-- The start of a block comment at a clear place is not closed. -/
theorem Clear.not_block : ¬ Clear ('/' :: '*' :: (body ++ '*' :: '/' :: rest)) := by
  intro clear
  obtain ⟨shorter, later, closed, -, first⟩ := Text.exists_firstMark ['*', '/'] body rest
  apply clear _ _ later (.block (Text.firstMark_commentEnd.mp first))
  simpa using closed

/-- No two slashes stand at a clear place. -/
theorem Clear.not_line {text : Text} : ¬ Clear ('/' :: '/' :: text) := by
  intro clear
  obtain ⟨body, rest, rfl, all, stops⟩ := Text.exists_run (fun c => decide (c ≠ '\n')) text
  have oneLine : '\n' ∉ body := by
    intro member
    simpa using all _ member
  exact clear _ _ rest (.line oneLine stops) rfl

/-! ### Where the patterns match -/

/-- The characters that a string can hold. -/
def stringClass : CharClass :=
  .noneOf [.char '"', .char '\n']

theorem holds_stringClass (c : Char) : stringClass.holds c = true ↔ c ≠ '"' ∧ c ≠ '\n' := by
  simp [stringClass, CharClass.holds, ClassItem.holds]

/-- The characters that a line comment can hold. -/
def lineClass : CharClass :=
  .noneOf [.char '\n']

theorem holds_lineClass (c : Char) : lineClass.holds c = decide (c ≠ '\n') := by
  rw [Bool.eq_iff_iff]
  simp [lineClass, CharClass.holds, ClassItem.holds]

/-- Behind a quotation mark, all depends on where the run of string characters ends. -/
theorem string_match?_eq {run : Text} (split : place.rest = '"' :: (run ++ rest))
    (all : ∀ c ∈ run, stringClass.holds c = true) (stops : rest.StopsRun stringClass.holds) :
    Covered.string.pattern.match? place = (place.past ('"' :: run)).after? ['"'] := by
  have behind : (place.past ['"']).rest = run ++ rest := Place.rest_past split
  change (Pattern.seq (.literal ['"']) (.seq (.many stringClass .longest) (.literal ['"']))).match?
    place = _
  rw [Pattern.match?_literal_then _ ⟨_, split.symm⟩,
    Pattern.match?_longest_then _ behind all stops, Pattern.match?_literal]
  · rfl
  · intro before c after runEq
    have here : ((place.past ['"']).past before).rest = c :: (after ++ rest) := by
      apply Place.rest_past
      rw [behind, runEq, List.append_assoc, List.cons_append]
    have notMark := ((holds_stringClass c).mp (all c (by simp [runEq]))).1
    rw [Pattern.match?_literal, Place.after?_eq_none_iff, here, List.cons_prefix_cons]
    exact fun opens => notMark opens.1.symm

theorem string_match?_some (split : place.rest = '"' :: (body ++ '"' :: rest)) (free : '"' ∉ body)
    (oneLine : '\n' ∉ body) :
    Covered.string.pattern.match? place = some (place.past ('"' :: (body ++ ['"']))) := by
  have all : ∀ c ∈ body, stringClass.holds c = true := by
    intro c member
    refine (holds_stringClass c).mpr ⟨?_, ?_⟩ <;> rintro rfl <;> contradiction
  have behind : (place.past ('"' :: body)).rest = '"' :: rest := Place.rest_past split
  rw [string_match?_eq split all (Text.stopsRun_cons.mpr (by decide)),
    Place.after?_of_stands ⟨rest, behind.symm⟩, ← Place.past_append, List.cons_append]

theorem string_match?_none
    (unclosed : ∀ body rest, place.rest = '"' :: (body ++ '"' :: rest) → '\n' ∈ body) :
    Covered.string.pattern.match? place = none := by
  by_cases opens : ['"'] <+: place.rest
  · obtain ⟨text, split⟩ := opens
    obtain ⟨run, after, rfl, all, stops⟩ := Text.exists_run stringClass.holds text
    have splitRun : place.rest = '"' :: (run ++ after) := split.symm
    have behind : (place.past ('"' :: run)).rest = after := Place.rest_past splitRun
    rw [string_match?_eq splitRun all stops, Place.after?_eq_none_iff, behind]
    rintro ⟨rest, rfl⟩
    have lineFeed := unclosed run rest splitRun
    exact ((holds_stringClass _).mp (all _ lineFeed)).2 rfl
  · change (Pattern.seq (.literal ['"']) _).match? place = none
    rw [Pattern.match?_literal_then_none _ opens]

theorem block_match?_some (split : place.rest = '/' :: '*' :: (body ++ '*' :: '/' :: rest))
    (first : ¬ ['*', '/'] <:+: body ++ ['*']) :
    Covered.block.pattern.match? place = some (place.past ('/' :: '*' :: (body ++ ['*', '/']))) := by
  have stands : "/*".toList <+: place.rest := ⟨body ++ '*' :: '/' :: rest, split.symm⟩
  have behind : (place.past "/*".toList).rest = body ++ ("*/".toList ++ rest) := Place.rest_past split
  change (Pattern.seq (.literal "/*".toList)
    (.seq (.many .any .shortest) (.literal "*/".toList))).match? place = _
  rw [Pattern.match?_literal_then _ stands,
    Pattern.match?_shortest_then_literal behind (fun _ _ => rfl) (Text.firstMark_commentEnd.mpr first)]
  rfl

theorem block_match?_none
    (unclosed : ∀ body rest, place.rest ≠ '/' :: '*' :: (body ++ '*' :: '/' :: rest)) :
    Covered.block.pattern.match? place = none := by
  by_cases opens : "/*".toList <+: place.rest
  · obtain ⟨text, split⟩ := opens
    change (Pattern.seq (.literal "/*".toList)
      (.seq (.many .any .shortest) (.literal "*/".toList))).match? place = none
    rw [Pattern.match?_literal_then _ ⟨text, split⟩]
    refine Pattern.match?_shortest_then_literal_none fun body rest closed => ?_
    rw [Place.rest_past split.symm] at closed
    rw [closed] at split
    exact absurd split.symm (unclosed body rest)
  · change (Pattern.seq (.literal "/*".toList) _).match? place = none
    rw [Pattern.match?_literal_then_none _ opens]

theorem line_match?_some (split : place.rest = '/' :: '/' :: (body ++ rest)) (oneLine : '\n' ∉ body)
    (ends : rest.StopsRun (· ≠ '\n')) :
    Covered.line.pattern.match? place = some (place.past ('/' :: '/' :: body)) := by
  have stands : "//".toList <+: place.rest := ⟨body ++ rest, split.symm⟩
  have behind : (place.past "//".toList).rest = body ++ rest := Place.rest_past split
  have all : ∀ c ∈ body, lineClass.holds c = true := by
    intro c member
    rw [holds_lineClass, decide_eq_true_eq]
    rintro rfl
    exact oneLine member
  change (Pattern.seq (.literal "//".toList) (.many lineClass .longest)).match? place = _
  rw [Pattern.match?_literal_then _ stands,
    Pattern.match?_longest behind all (by rwa [funext holds_lineClass])]
  rfl

theorem line_match?_none (noLine : ¬ ['/', '/'] <+: place.rest) :
    Covered.line.pattern.match? place = none :=
  Pattern.match?_literal_then_none _ noLine

/-! ### What is found -/

/-- Strings, block comments and line comments are looked for in this order. -/
theorem find_eq (place : Place) :
    find place =
      ((Covered.string.pattern.match? place).map (Covered.string, ·)).or
        (((Covered.block.pattern.match? place).map (Covered.block, ·)).or
          ((Covered.line.pattern.match? place).map (Covered.line, ·))) := by
  simp only [find, List.findSome?_cons, List.findSome?_nil]
  cases Covered.string.pattern.match? place <;> cases Covered.block.pattern.match? place <;>
    cases Covered.line.pattern.match? place <;> rfl

/-- What stands at a place is found there. -/
theorem Stands.find_eq {found : Covered} {passed : Text} (stands : Stands found passed rest)
    (split : place.rest = passed ++ rest) : find place = some (found, place.past passed) := by
  rw [Comment.find_eq]
  cases stands with
  | @string body _ free oneLine =>
      have splitString : place.rest = '"' :: (body ++ '"' :: rest) := by simp [split]
      rw [string_match?_some splitString free oneLine]
      rfl
  | @block body _ first =>
      have splitBlock : place.rest = '/' :: '*' :: (body ++ '*' :: '/' :: rest) := by simp [split]
      have noString : Covered.string.pattern.match? place = none :=
        string_match?_none fun _ _ opened => by simp [splitBlock] at opened
      rw [noString, block_match?_some splitBlock first]
      rfl
  | @line body _ oneLine ends =>
      have noString : Covered.string.pattern.match? place = none :=
        string_match?_none fun _ _ opened => by simp [split] at opened
      have noBlock : Covered.block.pattern.match? place = none :=
        block_match?_none fun _ _ opened => by simp [split] at opened
      rw [noString, noBlock, line_match?_some split oneLine ends]
      rfl

/-- At a clear place nothing is found. -/
theorem find_eq_none (clear : Clear place.rest) : find place = none := by
  have noString : Covered.string.pattern.match? place = none := by
    apply string_match?_none
    intro body rest opened
    rw [opened] at clear
    exact clear.unclosed
  have noBlock : Covered.block.pattern.match? place = none := by
    apply block_match?_none
    intro body rest opened
    rw [opened] at clear
    exact clear.not_block
  have noLine : Covered.line.pattern.match? place = none := by
    apply line_match?_none
    rintro ⟨text, split⟩
    rw [← split] at clear
    exact clear.not_line
  rw [find_eq, noString, noBlock, noLine]
  rfl

/-- What is found at a place, if anything, is what stands there. -/
theorem find_cases (place : Place) :
    (∃ found passed rest, Stands found passed rest ∧ place.rest = passed ++ rest ∧
        find place = some (found, place.past passed)) ∨
      Clear place.rest ∧ find place = none := by
  by_cases stands : ∃ found passed rest, Stands found passed rest ∧ place.rest = passed ++ rest
  · obtain ⟨found, passed, rest, stands, split⟩ := stands
    exact Or.inl ⟨found, passed, rest, stands, split, stands.find_eq split⟩
  · have clear : Clear place.rest := fun found passed rest here split =>
      stands ⟨found, passed, rest, here, split⟩
    exact Or.inr ⟨clear, find_eq_none clear⟩

/-- What is found stands there. -/
theorem stands_of_find {found : Covered} {passed : Text} (finds : find place = some (found, place.past passed))
    (split : place.rest = passed ++ rest) : Stands found passed rest := by
  rcases find_cases place with ⟨covered, stretch, later, stands, splitHere, here⟩ | ⟨-, nothing⟩
  · obtain ⟨rfl, samePlace⟩ := Prod.mk.inj (Option.some.inj (finds.symm.trans here))
    obtain rfl := Place.past_injective split splitHere samePlace
    obtain rfl : rest = later := List.append_cancel_left (split.symm.trans splitHere)
    exact stands
  · rw [nothing] at finds
    exact absurd finds (by simp)

/-- Where nothing is found, the place is clear. -/
theorem clear_of_find (nothing : find place = none) : Clear place.rest := by
  rcases find_cases place with ⟨_, _, _, _, _, here⟩ | ⟨clear, -⟩
  · rw [nothing] at here
    exact absurd here (by simp)
  · exact clear

theorem advances_find : Advances find := by
  intro place found later finds
  rcases find_cases place with ⟨covered, passed, rest, stands, split, here⟩ | ⟨-, nothing⟩
  · obtain ⟨-, rfl⟩ := Prod.mk.inj (Option.some.inj (finds.symm.trans here))
    exact ⟨passed, rest, split, rfl, fun empty => absurd empty stands.passed_ne_nil⟩
  · rw [nothing] at finds
    exact absurd finds (by simp)

/-! ### How a source is cut up -/

/-- A part of a source: a stretch of it, and what it was found to be. A single character that belongs to
nothing found is a part too. -/
abbrev Part : Type := Option Covered × Text

/-- The part that a segment of the source is. -/
def part : Segment Covered → Part
  | .gap _ c => (none, [c])
  | .hit found first last => (some found, first.textUntil last)

/-- What a part shows in the stripped source. -/
def Part.shown : Part → Text
  | (some .block, text) => text.map fun c => if c = '\n' then '\n' else ' '
  | (some .line, _) => []
  | (some .string, text) => text
  | (none, text) => text

/-- The parts of a source, from left to right. -/
def parts (source : Text) : List Part :=
  (segments find source).map part

/-- The stripped source is what the parts of the source show. -/
theorem strip_eq (source : Text) : strip source = (parts source).flatMap Part.shown := by
  rw [strip, parts, List.flatMap_map]
  refine congrArg (List.flatMap · _) (funext fun segment => ?_)
  cases segment with
  | gap => rfl
  | hit found => cases found <;> rfl

/-- A text is cut into parts from left to right. -/
inductive Parted : Text → List Part → Prop where
  | nil : Parted [] []
  /-- Where nothing is found, the next character is a part by itself. -/
  | gap {c : Char} {rest : Text} {later : List Part} (clear : Clear (c :: rest))
      (onward : Parted rest later) : Parted (c :: rest) ((none, [c]) :: later)
  /-- What is found is a part. -/
  | hit {found : Covered} {passed rest : Text} {later : List Part}
      (stands : Stands found passed rest) (onward : Parted rest later) :
      Parted (passed ++ rest) ((some found, passed) :: later)

/-- The walk over a text cuts it into parts. -/
theorem parted_of_walk {segments : List (Segment Covered)} (walk : Walk find place segments) :
    Parted place.rest (segments.map part) := by
  induction walk with
  | done atEnd =>
      rw [atEnd]
      exact .nil
  | @last place found atEnd finds =>
      have stands : Stands found [] [] := stands_of_find finds atEnd
      exact absurd rfl stands.passed_ne_nil
  | @hit place found passed rest segments finds split nonempty onward ih =>
      rw [Place.rest_past split] at ih
      rw [List.map_cons, part, Place.textUntil_past split, split]
      exact .hit (stands_of_find finds split) ih
  | @gap place c rest segments nothing split onward ih =>
      have clear := clear_of_find nothing
      rw [@Place.rest_past place [c] _ split] at ih
      rw [split] at clear
      rw [split, List.map_cons, part]
      exact .gap clear ih

theorem parted_parts (source : Text) : Parted source (parts source) :=
  parted_of_walk (walk_segments advances_find source)

/-- What stands at the start of a text is one thing only. -/
theorem Stands.unique {found other : Covered} {passed stretch later : Text}
    (stands : Stands found passed rest) (standsOther : Stands other stretch later)
    (same : passed ++ rest = stretch ++ later) : found = other ∧ passed = stretch ∧ rest = later := by
  have finds : find (Place.start (passed ++ rest)) = _ := stands.find_eq rfl
  have findsOther : find (Place.start (passed ++ rest)) = _ := standsOther.find_eq same
  obtain ⟨rfl, samePlace⟩ := Prod.mk.inj (Option.some.inj (finds.symm.trans findsOther))
  obtain rfl := Place.past_injective rfl same samePlace
  exact ⟨rfl, rfl, List.append_cancel_left same⟩

/-- A text is cut into parts in one way only. -/
theorem Parted.unique {text : Text} {first second : List Part} (parted : Parted text first)
    (partedOther : Parted text second) : first = second := by
  induction parted generalizing second with
  | nil =>
      generalize empty : ([] : Text) = text at partedOther
      cases partedOther with
      | nil => rfl
      | gap => simp at empty
      | hit stands => simp [stands.passed_ne_nil] at empty
  | @gap c rest later clear onward ih =>
      generalize whole : c :: rest = text at partedOther
      cases partedOther with
      | nil => simp at whole
      | gap _ onwardOther =>
          obtain ⟨rfl, rfl⟩ := List.cons.inj whole
          rw [ih onwardOther]
      | hit stands => exact absurd whole (clear _ _ _ stands)
  | @hit found passed rest later stands onward ih =>
      generalize whole : passed ++ rest = text at partedOther
      cases partedOther with
      | nil => simp [stands.passed_ne_nil] at whole
      | gap clear => exact absurd whole.symm (clear _ _ _ stands)
      | hit standsOther onwardOther =>
          obtain ⟨rfl, rfl, rfl⟩ := stands.unique standsOther whole
          rw [ih onwardOther]

/-- However a text is cut up, the stripped text is what its parts show. -/
theorem Parted.strip_eq {text : Text} {parts : List Part} (parted : Parted text parts) :
    strip text = parts.flatMap Part.shown := by
  rw [Comment.strip_eq, (parted_parts text).unique parted]

@[simp] theorem strip_nil : strip [] = [] := Parted.nil.strip_eq

/-- A character at a clear place is kept. -/
theorem strip_gap {c : Char} (clear : Clear (c :: rest)) : strip (c :: rest) = c :: strip rest := by
  rw [(Parted.gap clear (parted_parts rest)).strip_eq, Comment.strip_eq rest]
  rfl

/-- What is found shows as what it is. -/
theorem strip_hit {found : Covered} {passed : Text} (stands : Stands found passed rest) :
    strip (passed ++ rest) = Part.shown (some found, passed) ++ strip rest := by
  rw [(Parted.hit stands (parted_parts rest)).strip_eq, Comment.strip_eq rest]
  rfl

end Lexical.Comment
