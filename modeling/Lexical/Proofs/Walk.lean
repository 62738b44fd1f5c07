/-
Module: Lexical.Proofs.Walk
Layer: Proofs
Purpose: The walk that cuts a text into segments, as a relation. A finder advances if what it finds is a
  stretch of the text that begins at the place and is not empty before the end of the text. For such a
  finder the segments are read off one step at a time (`segmentsFrom_hit`, `segmentsFrom_gap`), and
  `Walk` is the relation with these steps as its rules: an induction on it is an induction on the walk.
Imports: Lexical.Pattern.Segment, Lexical.Proofs.Passing
Main exports: Advances, Walk, segmentsFrom_hit, segmentsFrom_gap, walk_segmentsFrom, walk_segments,
  segments_congr, Segment.start, Walk.pairwise_start
-/

import Lexical.Pattern.Segment
import Lexical.Proofs.Passing

namespace Lexical

variable {α : Type} {find : Place → Option (α × Place)} {place later : Place}

/-- What the finder finds is a stretch of the text from the place on, and an empty one only at the end of
the text. -/
def Advances (find : Place → Option (α × Place)) : Prop :=
  ∀ {place : Place} {found : α} {later : Place}, find place = some (found, later) →
    ∃ passed rest, place.rest = passed ++ rest ∧ later = place.past passed ∧ (passed = [] → rest = [])

/-- The walk over a text from a place on, step by step. -/
inductive Walk (find : Place → Option (α × Place)) : Place → List (Segment α) → Prop where
  /-- At the end of the text nothing is found. -/
  | done {place : Place} (atEnd : place.rest = []) (nothing : find place = none) : Walk find place []
  /-- At the end of the text something empty is found. -/
  | last {place : Place} {found : α} (atEnd : place.rest = [])
      (finds : find place = some (found, place)) : Walk find place [.hit found place place]
  /-- A stretch is found, and the walk goes on behind it. -/
  | hit {place : Place} {found : α} {passed rest : Text} {parts : List (Segment α)}
      (finds : find place = some (found, place.past passed)) (split : place.rest = passed ++ rest)
      (nonempty : passed ≠ []) (onward : Walk find (place.past passed) parts) :
      Walk find place (.hit found place (place.past passed) :: parts)
  /-- Nothing is found, and the walk goes on behind the next character. -/
  | gap {place : Place} {c : Char} {rest : Text} {parts : List (Segment α)}
      (nothing : find place = none) (split : place.rest = c :: rest)
      (onward : Walk find (place.past [c]) parts) : Walk find place (.gap place c :: parts)

/-- Characters that a hit covers are passed over. -/
private theorem segmentsOnto_covered (find : Place → Option (α × Place)) {place : Place}
    {passed rest : Text} (split : place.rest = passed ++ rest) :
    segmentsOnto find [] passed.length place.before place.offset place.rest =
      segmentsFrom find (place.past passed) := by
  induction passed generalizing place with
  | nil => rfl
  | cons c passed ih =>
      rw [split, List.cons_append, List.length_cons, segmentsOnto]
      have onward := @ih (place.past [c]) (Place.rest_past split)
      rwa [@Place.rest_past place [c] _ split] at onward

theorem segmentsFrom_done (atEnd : place.rest = []) (nothing : find place = none) :
    segmentsFrom find place = [] := by
  obtain ⟨before, offset, rest⟩ := place
  subst atEnd
  simp [segmentsFrom, segmentsOnto, nothing]

theorem segmentsFrom_last {found : α} (atEnd : place.rest = [])
    (finds : find place = some (found, later)) :
    segmentsFrom find place = [.hit found place later] := by
  obtain ⟨before, offset, rest⟩ := place
  subst atEnd
  simp [segmentsFrom, segmentsOnto, finds]

/-- Where a stretch is found, it is the first segment. -/
theorem segmentsFrom_hit {found : α} {passed rest : Text}
    (finds : find place = some (found, place.past passed)) (split : place.rest = passed ++ rest)
    (nonempty : passed ≠ []) :
    segmentsFrom find place =
      .hit found place (place.past passed) :: segmentsFrom find (place.past passed) := by
  cases passed with
  | nil => exact absurd rfl nonempty
  | cons c passed =>
      have width : (place.past (c :: passed)).offset - place.offset = passed.length + 1 := by
        rw [Place.offset_past, List.length_cons, Nat.add_sub_cancel_left]
      have covered := @segmentsOnto_covered _ find (place.past [c]) _ _ (Place.rest_past split)
      rw [@Place.rest_past place [c] _ split] at covered
      obtain ⟨before, offset, text⟩ := place
      subst split
      rw [segmentsFrom, List.cons_append, segmentsOnto]
      rw [List.cons_append] at finds width
      simp only [finds, width]
      rw [segmentsOnto_eq_append]
      exact congrArg (_ :: ·) covered

/-- Where nothing is found, the next character is a segment by itself. -/
theorem segmentsFrom_gap {c : Char} {rest : Text} (nothing : find place = none)
    (split : place.rest = c :: rest) :
    segmentsFrom find place = .gap place c :: segmentsFrom find (place.past [c]) := by
  obtain ⟨before, offset, text⟩ := place
  subst split
  simp only [segmentsFrom, segmentsOnto, nothing]
  rw [segmentsOnto_eq_append]
  rfl

/-- The segments are those of the walk. -/
theorem walk_segmentsFrom (advances : Advances find) (place : Place) :
    Walk find place (segmentsFrom find place) := by
  generalize size : place.rest.length = n
  induction n using Nat.strongRecOn generalizing place with
  | ind n ih =>
      cases outcome : find place with
      | none =>
          cases text : place.rest with
          | nil =>
              rw [segmentsFrom_done text outcome]
              exact .done text outcome
          | cons c rest =>
              rw [segmentsFrom_gap outcome text]
              have behind : (place.past [c]).rest = rest := Place.rest_past text
              refine .gap outcome text (ih rest.length ?_ _ (congrArg _ behind))
              rw [← size, text, List.length_cons]
              exact Nat.lt_succ_self _
      | some answer =>
          obtain ⟨found, later⟩ := answer
          obtain ⟨passed, rest, split, rfl, emptyAtEnd⟩ := advances outcome
          cases passed with
          | nil =>
              have atEnd : place.rest = [] := by rw [split, emptyAtEnd rfl]; rfl
              rw [segmentsFrom_last atEnd outcome]
              exact .last atEnd outcome
          | cons c passed =>
              have nonempty : c :: passed ≠ [] := List.cons_ne_nil c passed
              rw [segmentsFrom_hit outcome split nonempty]
              have behind : (place.past (c :: passed)).rest = rest := Place.rest_past split
              refine .hit outcome split nonempty (ih rest.length ?_ _ (congrArg _ behind))
              rw [← size, split, List.length_append, List.length_cons]
              omega

/-- The walk of a whole text. -/
theorem walk_segments (advances : Advances find) (text : Text) :
    Walk find (Place.start text) (segments find text) :=
  walk_segmentsFrom advances (Place.start text)

/-! ### Finders that agree -/

/-- Finders that agree at every place of a text cut it into the same segments. -/
theorem segmentsOnto_congr {other : Place → Option (α × Place)} {text : Text}
    (agree : ∀ place : Place, place.rest <:+ text → find place = other place) (done : List (Segment α))
    (covered : Nat) (before : Option Char) (offset : Nat) :
    segmentsOnto find done covered before offset text =
      segmentsOnto other done covered before offset text := by
  induction text generalizing done covered before offset with
  | nil =>
      have here := agree { before, offset, rest := [] } List.suffix_rfl
      simp only [segmentsOnto, here]
  | cons c rest ih =>
      have here := agree { before, offset, rest := c :: rest } List.suffix_rfl
      have later := ih fun place within => agree place (within.trans (List.suffix_cons c rest))
      simp only [segmentsOnto, here, later]

theorem segments_congr {other : Place → Option (α × Place)} {text : Text}
    (agree : ∀ place : Place, place.rest <:+ text → find place = other place) :
    segments find text = segments other text :=
  segmentsOnto_congr agree [] 0 none 0

/-! ### Where segments start -/

/-- The place at which a segment starts. -/
def Segment.start {α : Type} : Segment α → Place
  | .hit _ first _ => first
  | .gap place _ => place

variable {parts : List (Segment α)}

theorem Walk.start_le (walk : Walk find place parts) :
    ∀ segment ∈ parts, place.offset ≤ segment.start.offset := by
  induction walk with
  | done => simp
  | last => simp [Segment.start]
  | hit finds split nonempty onward ih =>
      refine List.forall_mem_cons.mpr ⟨Nat.le_refl _, fun segment member => ?_⟩
      exact Nat.le_trans (by simp) (ih segment member)
  | gap nothing split onward ih =>
      refine List.forall_mem_cons.mpr ⟨Nat.le_refl _, fun segment member => ?_⟩
      exact Nat.le_trans (by simp) (ih segment member)

/-- Each segment of a walk starts behind those before it. -/
theorem Walk.pairwise_start (walk : Walk find place parts) :
    parts.Pairwise fun first second => first.start.offset < second.start.offset := by
  induction walk with
  | done => exact .nil
  | last => exact List.pairwise_singleton _ _
  | @hit place found passed rest parts finds split nonempty onward ih =>
      refine List.pairwise_cons.mpr ⟨fun segment member => ?_, ih⟩
      have behind := onward.start_le segment member
      have positive := List.length_pos_iff.mpr nonempty
      simp only [Segment.start, Place.offset_past] at behind ⊢
      omega
  | gap nothing split onward ih =>
      refine List.pairwise_cons.mpr ⟨fun segment member => ?_, ih⟩
      have behind := onward.start_le segment member
      simp only [Segment.start, Place.offset_past, List.length_singleton] at behind ⊢
      omega

end Lexical
