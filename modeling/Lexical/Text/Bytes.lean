/-
Module: Lexical.Text.Bytes
Layer: Text
Purpose: Places in a text that are named by the number of UTF-8 bytes in front of them. Not every number
  names a place: some fall inside a character, and some are larger than the text. A text can only be cut at
  bytes that name places, and cutting it anywhere else gives nothing.
Imports: Lexical.Text.Basic
Main exports: Text.IsBoundary, Text.splitAtByte?, Text.slice?, Text.firstByte?,
  Text.prefix_of_utf8Length_le, Text.slice?_eq_some_iff, Text.slice?_append, Text.isSome_slice?_iff,
  Text.slice?_firstByte?
-/

import Lexical.Text.Basic

namespace Lexical.Text

/-- The byte names a place of the text: some stretch at the start of the text takes up that many bytes. -/
def IsBoundary (text : Text) (byte : Nat) : Prop :=
  ∃ front : Text, front <+: text ∧ front.utf8Length = byte

/-- The text in front of a byte and the text from there on, if the byte names a place. -/
def splitAtByte? : Text → Nat → Option (Text × Text)
  | text, 0 => some ([], text)
  | [], _ + 1 => none
  | c :: text, byte + 1 =>
      if c.utf8Size ≤ byte + 1 then
        (splitAtByte? text (byte + 1 - c.utf8Size)).map fun (front, behind) => (c :: front, behind)
      else none

/-- The text from one byte to another, if both name places and the first does not come behind the other. -/
def slice? (text : Text) (first last : Nat) : Option Text :=
  if first ≤ last then
    (splitAtByte? text first).bind fun cut => (splitAtByte? cut.2 (last - first)).map Prod.fst
  else none

/-- The byte at which the first accepted character of the text begins. -/
def firstByte? (holds : Char → Bool) (text : Text) : Option Nat :=
  if text.any holds then some (utf8Length (text.takeWhile (!holds ·))) else none

/-! ### Lengths -/

@[simp] theorem utf8Length_nil : utf8Length [] = 0 := rfl

@[simp] theorem utf8Length_cons (c : Char) (text : Text) :
    utf8Length (c :: text) = c.utf8Size + utf8Length text := by
  rw [utf8Length, List.foldl_cons, foldl_utf8Size, Nat.zero_add]

/-- Only the empty text takes up no bytes. -/
theorem eq_nil_of_utf8Length_eq_zero {text : Text} (empty : utf8Length text = 0) : text = [] := by
  cases text with
  | nil => rfl
  | cons c text =>
      have positive := c.utf8Size_pos
      rw [utf8Length_cons] at empty
      omega

/-- A beginning takes up no more bytes than the whole. -/
theorem utf8Length_le_append (front behind : Text) : utf8Length front ≤ utf8Length (front ++ behind) := by
  rw [utf8Length_append]
  exact Nat.le_add_right _ _

/-- Of two beginnings of a text, the one that takes up no more bytes is a beginning of the other. -/
theorem prefix_of_utf8Length_le {front other text : Text} (stands : front <+: text)
    (standsOther : other <+: text) (shorter : utf8Length front ≤ utf8Length other) : front <+: other := by
  rcases List.prefix_or_prefix_of_prefix stands standsOther with inOther | ⟨more, rfl⟩
  · exact inOther
  · rw [utf8Length_append] at shorter
    obtain rfl : more = [] := eq_nil_of_utf8Length_eq_zero (by omega)
    simp

/-- A byte that names a place does not lie behind the end. -/
theorem IsBoundary.le {text : Text} {byte : Nat} (boundary : text.IsBoundary byte) :
    byte ≤ utf8Length text := by
  obtain ⟨front, ⟨behind, rfl⟩, rfl⟩ := boundary
  exact utf8Length_le_append front behind

/-! ### Cuts -/

/-- A cut parts the text behind as many bytes as were asked for. -/
theorem append_of_splitAtByte? {text front behind : Text} {byte : Nat}
    (cut : splitAtByte? text byte = some (front, behind)) :
    text = front ++ behind ∧ utf8Length front = byte := by
  induction text, byte using splitAtByte?.induct generalizing front with
  | case1 text =>
      simp only [splitAtByte?, Option.some.injEq, Prod.mk.injEq] at cut
      obtain ⟨rfl, rfl⟩ := cut
      exact ⟨rfl, rfl⟩
  | case2 byte => simp [splitAtByte?] at cut
  | case3 c text byte fits ih =>
      rw [splitAtByte?, if_pos fits] at cut
      obtain ⟨⟨later, _⟩, cutLater, same⟩ := Option.map_eq_some_iff.mp cut
      obtain ⟨rfl, rfl⟩ := Prod.mk.inj same
      obtain ⟨rfl, length⟩ := ih cutLater
      exact ⟨rfl, by rw [utf8Length_cons, length, Nat.add_sub_cancel' fits]⟩
  | case4 c text byte wide =>
      rw [splitAtByte?, if_neg wide] at cut
      exact absurd cut.symm (Option.some_ne_none _)

/-- Between two stretches a text can be cut. -/
theorem splitAtByte?_append (front behind : Text) :
    splitAtByte? (front ++ behind) (utf8Length front) = some (front, behind) := by
  induction front with
  | nil => cases behind <;> rfl
  | cons c front ih =>
      have positive := c.utf8Size_pos
      obtain ⟨byte, length⟩ : ∃ byte, utf8Length (c :: front) = byte + 1 :=
        Nat.exists_eq_add_one.mpr (by rw [utf8Length_cons]; omega)
      have fits : c.utf8Size ≤ byte + 1 := by
        rw [← length, utf8Length_cons]
        exact Nat.le_add_right _ _
      have further : byte + 1 - c.utf8Size = utf8Length front := by
        rw [← length, utf8Length_cons, Nat.add_sub_cancel_left]
      rw [length, List.cons_append, splitAtByte?, if_pos fits, further, ih]
      rfl

/-- A piece is cut out exactly where what stands in front of it and the piece itself take up the bytes. -/
theorem slice?_eq_some_iff {text piece : Text} {first last : Nat} :
    slice? text first last = some piece ↔
      ∃ front behind, text = front ++ (piece ++ behind) ∧ utf8Length front = first ∧
        first + utf8Length piece = last := by
  rw [slice?]
  constructor
  · intro cut
    split at cut
    · next ordered =>
        obtain ⟨⟨front, later⟩, cutFront, cutPiece⟩ := Option.bind_eq_some_iff.mp cut
        obtain ⟨⟨found, behind⟩, cutLater, same⟩ := Option.map_eq_some_iff.mp cutPiece
        obtain rfl : found = piece := same
        obtain ⟨rfl, frontLength⟩ := append_of_splitAtByte? cutFront
        obtain ⟨rfl, pieceLength⟩ := append_of_splitAtByte? cutLater
        exact ⟨front, behind, rfl, frontLength, by omega⟩
    · exact absurd cut.symm (Option.some_ne_none _)
  · rintro ⟨front, behind, rfl, rfl, rfl⟩
    rw [if_pos (Nat.le_add_right _ _), Nat.add_sub_cancel_left, splitAtByte?_append, Option.bind_some,
      splitAtByte?_append, Option.map_some]

/-- The middle of three stretches is cut out by the bytes at which it begins and ends. -/
theorem slice?_append (front piece behind : Text) :
    slice? (front ++ (piece ++ behind)) (utf8Length front) (utf8Length (front ++ piece)) = some piece :=
  slice?_eq_some_iff.mpr ⟨front, behind, rfl, rfl, (utf8Length_append front piece).symm⟩

/-- The end of a text is cut out from where it begins. -/
theorem slice?_suffix (front behind : Text) :
    slice? (front ++ behind) (utf8Length front) (utf8Length (front ++ behind)) = some behind := by
  have cut := slice?_append front behind []
  rwa [List.append_nil] at cut

/-- A piece can be cut out exactly where both bytes name places and come in order. -/
theorem isSome_slice?_iff {text : Text} {first last : Nat} :
    (slice? text first last).isSome ↔ first ≤ last ∧ text.IsBoundary first ∧ text.IsBoundary last := by
  rw [Option.isSome_iff_exists]
  constructor
  · rintro ⟨piece, cut⟩
    obtain ⟨front, behind, rfl, rfl, rfl⟩ := slice?_eq_some_iff.mp cut
    refine ⟨Nat.le_add_right _ _, ⟨front, List.prefix_append _ _, rfl⟩,
      ⟨front ++ piece, ⟨behind, List.append_assoc _ _ _⟩, utf8Length_append _ _⟩⟩
  · rintro ⟨ordered, ⟨front, stands, rfl⟩, ⟨upto, standsUpto, rfl⟩⟩
    obtain ⟨piece, rfl⟩ := prefix_of_utf8Length_le stands standsUpto ordered
    obtain ⟨behind, rfl⟩ := standsUpto
    rw [List.append_assoc]
    exact ⟨piece, slice?_append front piece behind⟩

example : slice? "aéb".toList 1 3 = some "é".toList ∧ slice? "aéb".toList 1 2 = none := by decide

/-! ### First bytes -/

section FirstBytes

variable {holds : Char → Bool} {before : Text}

theorem firstByte?_eq_none (noOne : ∀ c ∈ before, holds c = false) : firstByte? holds before = none := by
  have nowhere : before.any holds = false := by simpa using noOne
  rw [firstByte?, nowhere]
  rfl

/-- The first accepted character begins behind those that are not accepted. -/
theorem firstByte?_append {c : Char} (noOne : ∀ d ∈ before, holds d = false) (held : holds c = true)
    (after : Text) : firstByte? holds (before ++ c :: after) = some (utf8Length before) := by
  have passed : (before ++ c :: after).takeWhile (!holds ·) = before := by
    rw [List.takeWhile_append_of_pos (by simpa using noOne), List.takeWhile_cons_of_neg (by simp [held]),
      List.append_nil]
  rw [firstByte?, passed]
  simp [held]

/-- The characters in front of the first accepted one are cut out up to where it begins, and without such a
character up to the end of the text. -/
theorem slice?_firstByte? (holds : Char → Bool) (front behind : Text) :
    slice? (front ++ behind) (utf8Length front)
        (((firstByte? holds behind).map (utf8Length front + ·)).getD (utf8Length (front ++ behind))) =
      some (behind.takeWhile (!holds ·)) := by
  by_cases noOne : ∀ c ∈ behind, holds c = false
  · have whole : behind.takeWhile (!holds ·) = behind := by
      have passed : (behind ++ []).takeWhile (!holds ·) = behind := by
        rw [List.takeWhile_append_of_pos (by simpa using noOne), List.takeWhile_nil, List.append_nil]
      rwa [List.append_nil] at passed
    rw [firstByte?_eq_none noOne, whole]
    exact slice?_suffix front behind
  · have someone : behind.any holds = true := by simpa using noOne
    have place : utf8Length front + utf8Length (behind.takeWhile (!holds ·)) =
        utf8Length (front ++ behind.takeWhile (!holds ·)) := (utf8Length_append _ _).symm
    have cut := slice?_append front (behind.takeWhile (!holds ·)) (behind.dropWhile (!holds ·))
    rw [List.takeWhile_append_dropWhile] at cut
    rw [firstByte?, if_pos someone, Option.map_some, Option.getD_some, place, cut]

end FirstBytes

end Lexical.Text
