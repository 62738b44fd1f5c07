/-
Module: Lexical.Pattern.Segment
Layer: Pattern
Purpose: Cutting a whole text up from left to right. At each place a finder says whether something matches
  there and where it ends; the text then falls into hits and, between them, single characters that no hit
  covers. Looking for matches in a text, scanning a line and removing comments are three uses of this one
  walk. It follows the text character by character: inside a hit it only counts down the characters that
  the hit still covers.
Imports: Lexical.Pattern.Place
Main exports: Segment, segmentsFrom, segments
-/

import Lexical.Pattern.Place

namespace Lexical

/-- A part of a text that has been cut up. -/
inductive Segment (α : Type) where
  /-- A match, with what the finder says of it and the places where it begins and ends. -/
  | hit (found : α) (first last : Place)
  /-- One character that no match covers, with the place before it. -/
  | gap (place : Place) (c : Char)
deriving DecidableEq, Repr

/-- The segments from a place on, given in parts, behind the segments `done`, which are held in reverse.
The first `covered` characters belong to the hit before them. A hit of no characters covers none, and the
character behind it is then passed over as a gap, so that the walk always moves on. -/
def segmentsOnto {α : Type} (find : Place → Option (α × Place)) (done : List (Segment α))
    (covered : Nat) (before : Option Char) (offset : Nat) : Text → List (Segment α)
  | [] =>
      let here : Place := { before, offset, rest := [] }
      match covered, find here with
      | 0, some (found, last) => (Segment.hit found here last :: done).reverse
      | _, _ => done.reverse
  | c :: rest =>
      let here : Place := { before, offset, rest := c :: rest }
      match covered with
      | more + 1 => segmentsOnto find done more (some c) (offset + 1) rest
      | 0 =>
          match find here with
          | some (found, last) =>
              match last.offset - offset with
              | more + 1 =>
                  segmentsOnto find (.hit found here last :: done) more (some c) (offset + 1) rest
              | 0 =>
                  segmentsOnto find (.gap here c :: .hit found here last :: done) 0 (some c)
                    (offset + 1) rest
          | none => segmentsOnto find (.gap here c :: done) 0 (some c) (offset + 1) rest

/-- The segments from a place on. -/
def segmentsFrom {α : Type} (find : Place → Option (α × Place)) (place : Place) : List (Segment α) :=
  segmentsOnto find [] 0 place.before place.offset place.rest

/-- The segments of a whole text, from left to right. -/
def segments {α : Type} (find : Place → Option (α × Place)) (text : Text) : List (Segment α) :=
  segmentsFrom find (Place.start text)

/-- The segments that are done already stay in front. -/
theorem segmentsOnto_eq_append {α : Type} (find : Place → Option (α × Place))
    (done : List (Segment α)) (covered : Nat) (before : Option Char) (offset : Nat) (text : Text) :
    segmentsOnto find done covered before offset text =
      done.reverse ++ segmentsOnto find [] covered before offset text := by
  induction text generalizing done covered before offset with
  | nil =>
      cases covered with
      | zero => simp only [segmentsOnto]; split <;> simp
      | succ more => simp [segmentsOnto]
  | cons c rest ih =>
      cases covered with
      | succ more => simp only [segmentsOnto]; exact ih done more _ _
      | zero =>
          simp only [segmentsOnto]
          split
          · split
            · rw [ih, ih [_]]; simp
            · rw [ih, ih [_, _]]; simp
          · rw [ih, ih [_]]; simp

end Lexical
