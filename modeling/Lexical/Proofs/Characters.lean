/-
Module: Lexical.Proofs.Characters
Layer: Proofs
Purpose: The characters that lexemes are made of, told apart by what they are and not by the classes of
  the grammar: what can begin and continue a word, digits, blanks, and the characters that no lexeme but a
  quoted one can hold. The classes of the grammar hold exactly these (`holds_…`), all characters of words
  and numbers are word characters in the sense of Unicode, and no blank is one.
Imports: Lexical.Grammar.Rules
Main exports: Text.beginsWord, Text.continuesWord, Text.isSign, Text.isSymbolChar,
  Text.isWord_of_continuesWord, Text.isWord_of_isBlank, Grammar.holds_wordStartClass,
  Grammar.holds_wordPartClass, Grammar.holds_digitClass, Grammar.holds_signClass
-/

import Lexical.Grammar.Rules

namespace Lexical

namespace Text

/-- The characters that a word can begin with: the letters of ASCII and the underscore. -/
def beginsWord (c : Char) : Bool :=
  c.isAlpha || c == '_'

/-- The characters that a word can go on with: also the digits. -/
def continuesWord (c : Char) : Bool :=
  c.isAlphanum || c == '_'

/-- The characters that are neither letters nor digits of ASCII nor blank. -/
def isSign (c : Char) : Bool :=
  !c.isAlphanum && !isBlank c

/-- The signs that are neither word characters nor quotes. -/
def isSymbolChar (c : Char) : Bool :=
  isSign c && !isWord c && c != '"' && c != '\''

theorem isUpper_iff_toNat {c : Char} : c.isUpper = true ↔ 65 ≤ c.toNat ∧ c.toNat ≤ 90 := by
  change decide ('A'.val ≤ c.val ∧ c.val ≤ 'Z'.val) = true ↔ _
  simp [UInt32.le_iff_toNat_le, ← Char.toNat_val]

theorem isLower_iff_toNat {c : Char} : c.isLower = true ↔ 97 ≤ c.toNat ∧ c.toNat ≤ 122 := by
  change (decide ('a'.val ≤ c.val) && decide (c.val ≤ 'z'.val)) = true ↔ _
  simp [UInt32.le_iff_toNat_le, ← Char.toNat_val]

/-- What begins a word can continue one. -/
theorem continuesWord_of_beginsWord {c : Char} (begins : beginsWord c = true) :
    continuesWord c = true := by
  simp only [beginsWord, continuesWord, Char.isAlphanum, Bool.or_eq_true] at begins ⊢
  rcases begins with letter | underscore
  · exact Or.inl (Or.inl letter)
  · exact Or.inr underscore

theorem continuesWord_of_isDigit {c : Char} (digit : c.isDigit = true) : continuesWord c = true := by
  simp [continuesWord, Char.isAlphanum, digit]

theorem beginsWord_of_isDigit {c : Char} (digit : c.isDigit = true) : beginsWord c = false := by
  rw [Bool.eq_false_iff]
  intro begins
  simp only [Char.isDigit_iff_toNat, Char.reduceToNat] at digit
  change (c.isUpper || c.isLower || c == '_') = true at begins
  simp only [Bool.or_eq_true, beq_iff_eq, isUpper_iff_toNat, isLower_iff_toNat] at begins
  rcases begins with (upper | lower) | rfl
  · omega
  · omega
  · exact absurd digit (by decide)

/-- The characters of words and numbers are word characters. -/
theorem isWord_of_continuesWord {c : Char} (continues : continuesWord c = true) : isWord c = true := by
  have member : ∀ range ∈ wordRangesAscii, range ∈ wordRanges := by
    intro range inAscii
    exact List.mem_append_left _ (List.mem_append_left _ (List.mem_append_left _ inAscii))
  change (c.isUpper || c.isLower || c.isDigit || c == '_') = true at continues
  simp only [Bool.or_eq_true, beq_iff_eq, isUpper_iff_toNat, isLower_iff_toNat,
    Char.isDigit_iff_toNat] at continues
  rw [isWord_iff]
  rcases continues with ((upper | lower) | digit) | rfl
  · exact ⟨(0x41, 0x5A), member _ (by decide), upper⟩
  · exact ⟨(0x61, 0x7A), member _ (by decide), lower⟩
  · exact ⟨(0x30, 0x39), member _ (by decide), digit⟩
  · exact ⟨(0x5F, 0x5F), member _ (by decide), by decide⟩

theorem isWord_of_isDigit {c : Char} (digit : c.isDigit = true) : isWord c = true :=
  isWord_of_continuesWord (continuesWord_of_isDigit digit)

/-- No blank character is a word character. -/
theorem isWord_of_isBlank {c : Char} (blank : isBlank c = true) : isWord c = false := by
  have apart : ∀ range ∈ blankRanges, ∀ step < range.2 + 1 - range.1,
      CodeRange.mem (range.1 + step) wordRanges = false := by
    decide +kernel
  obtain ⟨range, member, from_, upto⟩ := (isBlank_iff c).mp blank
  have notWord := apart range member (c.toNat - range.1) (by omega)
  rwa [Nat.add_sub_cancel' from_] at notWord

/-- No word character is blank. -/
theorem isBlank_of_isWord {c : Char} (word : isWord c = true) : isBlank c = false := by
  rw [Bool.eq_false_iff]
  intro blank
  simp [isWord_of_isBlank blank] at word

theorem isBlank_of_continuesWord {c : Char} (continues : continuesWord c = true) : isBlank c = false :=
  isBlank_of_isWord (isWord_of_continuesWord continues)

theorem ne_of_isWord {c d : Char} (word : isWord c = true) (notWord : isWord d = false) : c ≠ d := by
  rintro rfl
  simp [word] at notWord

theorem ne_of_isBlank {c d : Char} (blank : isBlank c = true) (notBlank : isBlank d = false) : c ≠ d := by
  rintro rfl
  simp [blank] at notBlank

/-- Signs and blanks are no letters and no digits. -/
theorem isAlphanum_of_isSign {c : Char} (sign : isSign c = true) : c.isAlphanum = false := by
  simp only [isSign, Bool.and_eq_true, Bool.not_eq_true'] at sign
  exact sign.1

theorem isBlank_of_isSign {c : Char} (sign : isSign c = true) : isBlank c = false := by
  simp only [isSign, Bool.and_eq_true, Bool.not_eq_true'] at sign
  exact sign.2

/-- A quote is no blank, stands in no word and in no symbol, and begins no comment. -/
theorem of_quote {c : Char} (quote : c = '"' ∨ c = '\'') :
    isBlank c = false ∧ isWord c = false ∧ isSymbolChar c = false ∧ c ≠ '/' := by
  rcases quote with rfl | rfl
  · exact ⟨rfl, rfl, rfl, by decide⟩
  · exact ⟨rfl, rfl, rfl, by decide⟩

end Text

/-! ### The classes of the grammar -/

namespace ClassItem

theorem holds_range {first last c : Char} :
    (range first last).holds c = true ↔ first.toNat ≤ c.toNat ∧ c.toNat ≤ last.toNat := by
  simp [holds, Char.le_def, UInt32.le_iff_toNat_le]

theorem holds_lower (c : Char) : (range 'a' 'z').holds c = c.isLower := by
  rw [Bool.eq_iff_iff, holds_range, Text.isLower_iff_toNat]
  rfl

theorem holds_upper (c : Char) : (range 'A' 'Z').holds c = c.isUpper := by
  rw [Bool.eq_iff_iff, holds_range, Text.isUpper_iff_toNat]
  rfl

theorem holds_digit (c : Char) : (range '0' '9').holds c = c.isDigit := by
  rw [Bool.eq_iff_iff, holds_range, Char.isDigit_iff_toNat]

theorem holds_char (expected c : Char) : (char expected).holds c = (c == expected) := rfl

theorem holds_blank (c : Char) : blank.holds c = Text.isBlank c := rfl

end ClassItem

namespace Grammar

theorem holds_wordStartClass (c : Char) : wordStartClass.holds c = Text.beginsWord c := by
  simp only [wordStartClass, CharClass.holds, List.any_cons, List.any_nil, Bool.or_false,
    ClassItem.holds_lower, ClassItem.holds_upper, ClassItem.holds_char]
  rw [← Bool.or_assoc, Bool.or_comm c.isLower]
  rfl

theorem holds_wordPartClass (c : Char) : wordPartClass.holds c = Text.continuesWord c := by
  simp only [wordPartClass, CharClass.holds, List.any_cons, List.any_nil, Bool.or_false,
    ClassItem.holds_lower, ClassItem.holds_upper, ClassItem.holds_digit, ClassItem.holds_char]
  rw [← Bool.or_assoc, ← Bool.or_assoc, Bool.or_comm c.isLower]
  rfl

theorem holds_digitClass (c : Char) : digitClass.holds c = c.isDigit := by
  simp only [digitClass, CharClass.holds, List.any_cons, List.any_nil, Bool.or_false,
    ClassItem.holds_digit]

theorem holds_signClass (c : Char) : signClass.holds c = Text.isSign c := by
  simp only [signClass, CharClass.holds, List.any_cons, List.any_nil, Bool.or_false,
    ClassItem.holds_lower, ClassItem.holds_upper, ClassItem.holds_digit, ClassItem.holds_blank]
  rw [← Bool.or_assoc, ← Bool.or_assoc, Bool.or_comm c.isLower, Bool.not_or]
  rfl

end Grammar

end Lexical
