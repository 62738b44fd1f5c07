/-
Module: Lexical.Proofs.StrippedJoins
Layer: Proofs
Purpose: Stripping a source that is put together from two with a line feed between them. What the search for
  comments finds in the first text it also finds in front of the second one, and at the line feed it begins
  afresh. The only thing that can reach over the line feed is a `/*` that is not closed in the first text:
  where one stands (`Comment.OpenAt`), an end of comment behind the line feed closes it.
Imports: Lexical.Proofs.StrippedLines
Main exports: Comment.OpenAt, Comment.Clear.append_lineFeed, Comment.strip_open,
  Comment.exists_openBehind_gap_iff, Comment.exists_openBehind_hit_iff, Comment.strip_append_lineFeed_iff
-/

import Lexical.Proofs.StrippedLines

namespace Lexical.Comment

variable {c : Char} {rest : Text}

/-! ### Places in front of a line feed -/

/-- A place in the first text stays clear, unless a `/*` stands there. -/
theorem Clear.append_lineFeed (clear : Clear (c :: rest)) (noBlock : ¬ ['/', '*'] <+: c :: rest)
    (second : Text) : Clear (c :: (rest ++ '\n' :: second)) := by
  intro found passed behind stands whole
  cases stands with
  | @string body _ free oneLine =>
      obtain ⟨rfl, closed⟩ := List.cons.inj whole
      have closedBehind : rest ++ '\n' :: second = body ++ '"' :: behind := by
        rw [closed]
        simp
      obtain ⟨more, rfl⟩ := Text.exists_in_front closedBehind oneLine (by decide)
      exact oneLine clear.unclosed
  | block =>
      obtain ⟨rfl, opened⟩ := List.cons.inj whole
      obtain ⟨more, rfl⟩ := @Text.exists_in_front _ _ _ [] _ opened List.not_mem_nil (by decide)
      exact noBlock ⟨more, rfl⟩
  | line =>
      obtain ⟨rfl, opened⟩ := List.cons.inj whole
      obtain ⟨more, rfl⟩ := @Text.exists_in_front _ _ _ [] _ opened List.not_mem_nil (by decide)
      exact clear.not_line

/-- A clear `/*` is closed from behind the line feed, and then its slash is blanked. -/
theorem strip_open (clear : Clear (c :: rest)) (opens : ['/', '*'] <+: c :: rest) :
    strip (c :: rest ++ '\n' :: ['*', '/']) ≠ strip (c :: rest) ++ '\n' :: strip ['*', '/'] := by
  obtain ⟨body, split⟩ := opens
  obtain ⟨rfl, rfl⟩ : '/' = c ∧ '*' :: body = rest := List.cons.inj split
  obtain ⟨shorter, later, closed, -, first⟩ := Text.exists_firstMark ['*', '/'] (body ++ ['\n']) []
  have whole : '/' :: '*' :: body ++ '\n' :: ['*', '/'] = '/' :: '*' :: (shorter ++ ['*', '/']) ++ later := by
    simpa using closed
  rw [strip_gap clear, whole, strip_hit (.block (Text.firstMark_commentEnd.mp first))]
  intro same
  exact absurd (List.cons.inj same).1 (by decide)

/-! ### Marks that are left open -/

/-- A `/*` stands at the index behind the place, and no hit among the parts covers it. -/
def OpenBehind (place : Place) (parts : List (Segment Covered)) (index : Nat) : Prop :=
  ['/', '*'] <+: place.rest.drop index ∧
    ∀ found first last, Segment.hit found first last ∈ parts →
      ¬ (first.offset ≤ place.offset + index ∧ place.offset + index < last.offset)

/-- A `/*` stands at the index of the text, outside of all that the search finds there. -/
def OpenAt (text : Text) (index : Nat) : Prop :=
  OpenBehind (Place.start text) (segments find text) index

variable {place : Place} {parts : List (Segment Covered)}

/-- Behind a stretch of the text, indices are smaller by its length. -/
theorem openBehind_past (passed : Text) (index : Nat) :
    OpenBehind (place.past passed) parts index ↔ OpenBehind place parts (passed.length + index) := by
  rw [OpenBehind, OpenBehind, Place.rest_past_eq_drop, List.drop_drop, Place.offset_past, Nat.add_assoc]

/-- A character that belongs to nothing found can only add the mark that it begins itself. -/
theorem exists_openBehind_gap_iff (onward : Walk find (place.past [c]) parts)
    (split : place.rest = c :: rest) :
    (∃ index, OpenBehind place (.gap place c :: parts) index) ↔
      ['/', '*'] <+: c :: rest ∨ ∃ index, OpenBehind (place.past [c]) parts index := by
  have sameHits : ∀ index,
      OpenBehind place (.gap place c :: parts) index ↔ OpenBehind place parts index := by
    simp [OpenBehind]
  simp only [sameHits, openBehind_past]
  constructor
  · rintro ⟨index, opens⟩
    cases index with
    | zero => exact Or.inl (split ▸ opens.1)
    | succ index => exact Or.inr ⟨index, by rwa [List.length_singleton, Nat.add_comm]⟩
  · rintro (opens | ⟨index, opens⟩)
    · refine ⟨0, split ▸ opens, fun found first last member within => ?_⟩
      have starts := onward.start_le _ member
      rw [Place.offset_past, List.length_singleton] at starts
      exact absurd (Nat.le_trans starts within.1) (by omega)
    · exact ⟨_, opens⟩

/-- Within what is found nothing is left open. -/
theorem exists_openBehind_hit_iff {found : Covered} {passed : Text} :
    (∃ index, OpenBehind place (.hit found place (place.past passed) :: parts) index) ↔
      ∃ index, OpenBehind (place.past passed) parts index := by
  have outside : ∀ index, OpenBehind place (.hit found place (place.past passed) :: parts) index ↔
      passed.length ≤ index ∧ OpenBehind place parts index := by
    intro index
    constructor
    · rintro ⟨opens, uncovered⟩
      have notHere := uncovered found place _ List.mem_cons_self
      rw [Place.offset_past] at notHere
      refine ⟨by omega, opens, fun other first last member => ?_⟩
      exact uncovered other first last (List.mem_cons_of_mem _ member)
    · rintro ⟨behind, opens, uncovered⟩
      refine ⟨opens, fun other first last member within => ?_⟩
      rcases List.mem_cons.mp member with same | inParts
      · obtain ⟨-, -, rfl⟩ := Segment.hit.inj same
        rw [Place.offset_past] at within
        omega
      · exact uncovered other first last inParts within
  simp only [outside, openBehind_past]
  constructor
  · rintro ⟨index, behind, opens⟩
    exact ⟨index - passed.length, by rwa [Nat.add_sub_cancel' behind]⟩
  · rintro ⟨index, opens⟩
    exact ⟨_, Nat.le_add_right _ _, opens⟩

/-! ### Texts with a line feed between them -/

/-- Whatever stands behind a line feed at the end of the text is stripped by itself. -/
def Splits (first : Text) : Prop :=
  ∀ second, strip (first ++ '\n' :: second) = strip first ++ '\n' :: strip second

theorem splits_nil : Splits [] := by
  intro second
  rw [strip_nil]
  exact strip_gap (clear_of_isPlain rfl second)

theorem splits_gap_iff (clear : Clear (c :: rest)) :
    Splits (c :: rest) ↔ ¬ ['/', '*'] <+: c :: rest ∧ Splits rest := by
  constructor
  · intro splits
    have noBlock : ¬ ['/', '*'] <+: c :: rest := fun opens => strip_open clear opens (splits ['*', '/'])
    refine ⟨noBlock, fun second => ?_⟩
    have whole := splits second
    rw [strip_gap clear, List.cons_append, strip_gap (clear.append_lineFeed noBlock second)] at whole
    exact (List.cons.inj whole).2
  · rintro ⟨noBlock, splits⟩ second
    rw [strip_gap clear, List.cons_append, strip_gap (clear.append_lineFeed noBlock second), splits second]
    rfl

theorem splits_hit_iff {found : Covered} {passed : Text} (stands : Stands found passed rest) :
    Splits (passed ++ rest) ↔ Splits rest := by
  refine forall_congr' fun second => ?_
  rw [strip_hit stands, List.append_assoc,
    strip_hit (stands.append_after (Text.stopsRun_cons.mpr (by decide))), List.append_assoc,
    List.append_cancel_left_eq]

/-- Along the walk, a text splits where no mark is left open. -/
theorem splits_iff_of_walk (walk : Walk find place parts) :
    Splits place.rest ↔ ¬ ∃ index, OpenBehind place parts index := by
  induction walk with
  | done atEnd => simp [atEnd, OpenBehind, splits_nil]
  | @last place found atEnd finds => simp [atEnd, OpenBehind, splits_nil]
  | @hit place found passed rest parts finds split nonempty onward ih =>
      rw [exists_openBehind_hit_iff, ← ih, Place.rest_past split, split]
      exact splits_hit_iff (stands_of_find finds split)
  | @gap place c rest parts nothing split onward ih =>
      have clear := clear_of_find nothing
      rw [split] at clear
      rw [exists_openBehind_gap_iff onward split, not_or, ← ih, @Place.rest_past place [c] rest split, split]
      exact splits_gap_iff clear

/-- A line feed keeps two texts apart: whatever stands behind it, quotes and ends of comments included, is
stripped by itself. This holds exactly if the first text leaves no `/*` open. -/
theorem strip_append_lineFeed_iff (first : Text) :
    (∀ second, strip (first ++ '\n' :: second) = strip first ++ '\n' :: strip second) ↔
      ∀ index, ¬ OpenAt first index := by
  rw [← not_exists]
  exact splits_iff_of_walk (walk_segments advances_find first)

end Lexical.Comment
