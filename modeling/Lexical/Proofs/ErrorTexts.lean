/-
Module: Lexical.Proofs.ErrorTexts
Layer: Proofs
Purpose: The text of an error tells which error it is. Its position is read off from the right end, where a
  numeral begins behind the last character that is no digit; so it makes no difference what the literal of
  the fault looks like, even if it ends like a position itself. What is left is the message of the fault,
  which begins with the kind of fault; and a quoted literal can be read back, since each of its characters
  shows where its quoted form ends.
Imports: Lexical.Fault, Lexical.Proofs.Matching
Main exports: Text.append_ofNat_inj, Position.append_text_inj, Text.ofHex_toDigits, Text.readQuotedChar?,
  Text.readQuotedChar?_quotedChar, Text.quoted_injective, Fault.message_injective, LexicalError.message_inj
-/

import Lexical.Fault
import Lexical.Proofs.Matching

namespace Lexical

/-! ### Positions at the end of a text -/

/-- A numeral at the end of a text begins behind the last character that is no digit. -/
theorem Text.append_ofNat_inj {front other : Text} {first second : Nat}
    (ends : StopsRun Char.isDigit front.reverse) (endsOther : StopsRun Char.isDigit other.reverse)
    (same : front ++ ofNat first = other ++ ofNat second) : front = other ∧ first = second := by
  have digits (n : Nat) : ∀ c ∈ (ofNat n).reverse, c.isDigit = true := fun _ member =>
    isDigit_of_mem_ofNat (List.mem_reverse.mp member)
  have numerals := congrArg (fun text => text.reverse.takeWhile Char.isDigit) same
  simp only [List.reverse_append] at numerals
  rw [takeWhile_run (digits first) ends, takeWhile_run (digits second) endsOther] at numerals
  obtain rfl := ofNat_injective (List.reverse_inj.mp numerals)
  exact ⟨List.append_cancel_right same, rfl⟩

/-- The numerals of a position at the end of a text, and what stands in front of them. -/
theorem Position.append_text (front : Text) (position : Position) :
    front ++ position.text =
      front ++ "line ".toList ++ Text.ofNat position.line ++ ", column ".toList ++
        Text.ofNat position.column := by
  change front ++ ("line ".toList ++ Text.ofNat position.line ++ ", column ".toList ++
    Text.ofNat position.column) = _
  simp only [List.append_assoc]

/-- A position at the end of a text can be read off, whatever stands in front of it. -/
theorem Position.append_text_inj {front other : Text} {position otherPosition : Position}
    (same : front ++ position.text = other ++ otherPosition.text) :
    front = other ∧ position = otherPosition := by
  rw [append_text front position, append_text other otherPosition] at same
  obtain ⟨line, column⟩ := position
  obtain ⟨otherLine, otherColumn⟩ := otherPosition
  have behindLine (text : Text) : Text.StopsRun Char.isDigit (text ++ ", column ".toList).reverse := by
    rw [List.reverse_append]
    exact Text.stopsRun_cons.mpr rfl
  have behindFront (text : Text) : Text.StopsRun Char.isDigit (text ++ "line ".toList).reverse := by
    rw [List.reverse_append]
    exact Text.stopsRun_cons.mpr rfl
  obtain ⟨sameLine, rfl⟩ := Text.append_ofNat_inj (behindLine _) (behindLine _) same
  obtain ⟨sameFront, rfl⟩ :=
    Text.append_ofNat_inj (behindFront _) (behindFront _) (List.append_cancel_right sameLine)
  exact ⟨List.append_cancel_right sameFront, rfl⟩

/-! ### Reading back quoted texts -/

namespace Text

/-- The value of a hexadecimal digit. -/
def hexValue (c : Char) : Nat :=
  if c.isDigit then c.toNat - '0'.toNat else c.toNat - 'a'.toNat + 10

/-- The number that hexadecimal digits write. -/
def ofHex (digits : Text) : Nat :=
  digits.foldl (fun number c => 16 * number + hexValue c) 0

theorem hexValue_digitChar : ∀ digit < 16, hexValue (Nat.digitChar digit) = digit := by
  decide

/-- The hexadecimal digits of a number write the number. -/
theorem ofHex_toDigits (n : Nat) : ofHex (Nat.toDigits 16 n) = n := by
  induction n using Nat.strongRecOn with
  | ind n ih =>
      rw [Nat.toDigits_eq_if (by decide)]
      by_cases small : n < 16
      · rw [if_pos small]
        exact (Nat.zero_add _).trans (hexValue_digitChar n small)
      · have front := ih (n / 16) (by omega)
        rw [ofHex] at front
        rw [if_neg small, ofHex, List.foldl_append, front, List.foldl_cons, List.foldl_nil,
          hexValue_digitChar (n % 16) (Nat.mod_lt n (by decide)), Nat.div_add_mod]

/-- No digit of a number closes the escape in which the number stands. -/
theorem not_mem_toDigits (n : Nat) : '}' ∉ Nat.toDigits 16 n := by
  have noDigit (digit : Nat) : '}' ≠ Nat.digitChar digit := (Nat.digitChar_ne '}' (by decide)).symm
  induction n using Nat.strongRecOn with
  | ind n ih =>
      rw [Nat.toDigits_eq_if (by decide)]
      by_cases small : n < 16
      · rw [if_pos small, List.mem_singleton]
        exact noDigit n
      · rw [if_neg small, List.mem_append, List.mem_singleton]
        exact not_or.mpr ⟨ih (n / 16) (by omega), noDigit (n % 16)⟩

/-- The character whose quoted form stands at the start of a text, and the text behind it. -/
def readQuotedChar? : Text → Option (Char × Text)
  | [] => none
  | '"' :: _ => none
  | '\\' :: '0' :: rest => some ('\x00', rest)
  | '\\' :: 't' :: rest => some ('\t', rest)
  | '\\' :: 'r' :: rest => some ('\r', rest)
  | '\\' :: 'n' :: rest => some ('\n', rest)
  | '\\' :: '"' :: rest => some ('"', rest)
  | '\\' :: '\\' :: rest => some ('\\', rest)
  | '\\' :: 'u' :: '{' :: rest =>
      let digits := rest.takeWhile (· != '}')
      some (Char.ofNat (ofHex digits), rest.drop (digits.length + 1))
  | '\\' :: _ => none
  | c :: rest => some (c, rest)

/-- Inside quotes a character that is neither the quote nor the backslash may stand for itself. -/
theorem readQuotedChar?_of_ne {c : Char} (rest : Text) (noQuote : c ≠ '"') (noBackslash : c ≠ '\\') :
    readQuotedChar? (c :: rest) = some (c, rest) := by
  unfold readQuotedChar?
  split <;> simp_all

/-- The digits of a code point are read up to the closing brace. -/
theorem readQuotedChar?_braced {digits : Text} (inside : '}' ∉ digits) (rest : Text) :
    readQuotedChar? ('\\' :: 'u' :: '{' :: (digits ++ '}' :: rest)) =
      some (Char.ofNat (ofHex digits), rest) := by
  have read : (digits ++ '}' :: rest).takeWhile (· != '}') = digits := by
    refine takeWhile_run (fun c member => bne_iff_ne.mpr ?_) (stopsRun_cons.mpr rfl)
    rintro rfl
    exact inside member
  rw [readQuotedChar?, read, List.drop_length_add_append, List.drop_succ_cons, List.drop_zero]

/-- The escape of a code point gives the character back. -/
theorem readQuotedChar?_codePointEscape (c : Char) (rest : Text) :
    readQuotedChar? (codePointEscape c ++ rest) = some (c, rest) := by
  have shape : codePointEscape c ++ rest =
      '\\' :: 'u' :: '{' :: (Nat.toDigits 16 c.toNat ++ '}' :: rest) := by
    rw [codePointEscape, List.cons_append, List.cons_append, List.cons_append, List.append_assoc]
    rfl
  rw [shape, readQuotedChar?_braced (not_mem_toDigits c.toNat), ofHex_toDigits, Char.ofNat_toNat]

/-- The quoted form of a character gives it back, and shows where it ends. -/
theorem readQuotedChar?_quotedChar (c : Char) (rest : Text) :
    readQuotedChar? (quotedChar c ++ rest) = some (c, rest) := by
  unfold quotedChar
  split
  · rfl
  · rfl
  · rfl
  · rfl
  · rfl
  · rfl
  · next noQuote noBackslash =>
      by_cases unprintable : isUnprintable c = true
      · rw [if_pos unprintable]
        exact readQuotedChar?_codePointEscape c rest
      · rw [if_neg unprintable]
        exact readQuotedChar?_of_ne rest noQuote noBackslash

/-- What stands inside the quotes is read back one character at a time. -/
theorem flatMap_quotedChar_injective {first second : Text}
    (same : first.flatMap quotedChar = second.flatMap quotedChar) : first = second := by
  induction first generalizing second with
  | nil =>
      cases second with
      | nil => rfl
      | cons d second =>
          have read := congrArg readQuotedChar? same
          rw [List.flatMap_cons, readQuotedChar?_quotedChar] at read
          exact absurd read (Option.some_ne_none _).symm
  | cons c first ih =>
      have read := congrArg readQuotedChar? same
      rw [List.flatMap_cons, readQuotedChar?_quotedChar] at read
      cases second with
      | nil => exact absurd read (Option.some_ne_none _)
      | cons d second =>
          rw [List.flatMap_cons, readQuotedChar?_quotedChar] at read
          obtain ⟨rfl, later⟩ := Prod.mk.inj (Option.some.inj read)
          rw [ih later]

/-- No two texts have the same quoted form. -/
theorem quoted_injective {first second : Text} (same : first.quoted = second.quoted) : first = second :=
  flatMap_quotedChar_injective (List.append_cancel_right (List.cons.inj same).2)

end Text

/-! ### Errors -/

/-- What is said of a fault tells its kind and its literal. -/
theorem Fault.message_injective {first second : Fault} (same : first.message = second.message) :
    first = second := by
  cases first with
  | unknownToken literal =>
      cases second with
      | unknownToken other => rw [Text.quoted_injective (List.append_cancel_left same)]
      | invalidCharLiteral other => exact absurd (List.cons.inj same).1 (by decide)
  | invalidCharLiteral literal =>
      cases second with
      | unknownToken other => exact absurd (List.cons.inj same).1 (by decide)
      | invalidCharLiteral other => rw [List.append_cancel_left same]

/-- Errors have the same text only if they are the same error: the same kind of fault, with the same literal,
at the same line and column. -/
theorem LexicalError.message_inj {first second : LexicalError} :
    first.message = second.message ↔ first = second := by
  refine ⟨fun same => ?_, fun same => by rw [same]⟩
  obtain ⟨fault, position⟩ := first
  obtain ⟨otherFault, otherPosition⟩ := second
  obtain ⟨front, rfl⟩ := Position.append_text_inj same
  obtain rfl := Fault.message_injective (List.append_cancel_right front)
  rfl

/-- A literal that ends like a position does not hide the position behind it. -/
example :
    LexicalError.message
        { fault := .invalidCharLiteral "'ab' at line 1, column 2".toList, position := ⟨3, 4⟩ } =
      "invalid char literal: 'ab' at line 1, column 2 at line 3, column 4".toList := by
  decide

end Lexical
