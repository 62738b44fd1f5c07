/-
Module: Lexical.Text.Basic
Layer: Text
Purpose: Text as a list of characters, and the few operations on it that the rest of the library
  shares: decimal numerals, the length in UTF-8, joining, padding on the left, and the lines of a text. A
  list is used because every function here walks a text from left to right, and because an induction on the
  text is then an induction on the data. A line feed ends a line, and a carriage return directly before it
  belongs to the line ending. What stands after the last line feed is a line too unless it is empty, and
  there a carriage return is kept, since no line feed follows it.
Imports: none
Main exports: Text, Text.ofNat, Text.ofNat_injective, Text.utf8Length, Text.joined,
  Text.padLeft, Text.dropReturn, Text.lines, Text.line?
-/

namespace Lexical

/-- A text is the list of its characters. Positions and widths count these characters. -/
abbrev Text := List Char

namespace Text

/-- The decimal numeral of a number, without leading zeros; zero is the one digit `0`. -/
def ofNat (n : Nat) : Text :=
  Nat.toDigits 10 n

/-- The number of bytes that the text takes in UTF-8. -/
def utf8Length (text : Text) : Nat :=
  text.foldl (fun length c => length + c.utf8Size) 0

/-- A numeral holds digits only. -/
theorem isDigit_of_mem_ofNat {c : Char} {n : Nat} (member : c ∈ ofNat n) : c.isDigit = true :=
  Nat.isDigit_of_mem_toDigits (by decide) (by decide) member

theorem not_mem_ofNat {c : Char} (noDigit : c.isDigit = false) (n : Nat) : c ∉ ofNat n := by
  intro member
  simp [isDigit_of_mem_ofNat member] at noDigit

/-- No two numbers have the same numeral. -/
theorem ofNat_injective {first second : Nat} (same : ofNat first = ofNat second) : first = second := by
  have numbers := congrArg (Nat.ofDigitChars 10 · 0) same
  simpa [ofNat, Nat.ofDigitChars_ten_toDigits] using numbers

/-- A separator closes an empty stretch in front of those that follow it. -/
@[simp] theorem splitOn_cons_self (separator : Char) (text : Text) :
    List.splitOn separator (separator :: text) = [] :: List.splitOn separator text :=
  List.splitOn_append_cons_self [] text

/-- Any other character belongs to the first stretch. -/
theorem splitOn_cons_of_ne {separator c : Char} (text : Text) (other : c ≠ separator) :
    List.splitOn separator (c :: text) = (List.splitOn separator text).modifyHead (c :: ·) := by
  rw [List.splitOn_cons_eq_if_modifyHead, if_neg (by simpa using other)]

/-- The texts one after the other, with the separator between any two neighbours. -/
def joined (separator : Text) (texts : List Text) : Text :=
  separator.intercalate texts

/-- The text moved to the right end of a field of the given width, which `fill` fills from the left.
A text that is wider than the field stays as it is: padding never cuts. -/
def padLeft (width : Nat) (fill : Char) (text : Text) : Text :=
  List.replicate (width - text.length) fill ++ text

/-- The length of a padded text is the width asked for, or its own length where that is more. -/
theorem length_padLeft (width : Nat) (fill : Char) (text : Text) :
    (padLeft width fill text).length = max width text.length := by
  simp only [padLeft, List.length_append, List.length_replicate]
  omega

/-- A count of bytes that does not begin at zero only starts ahead. -/
theorem foldl_utf8Size (text : Text) (start : Nat) :
    text.foldl (fun length c => length + c.utf8Size) start = start + utf8Length text := by
  induction text generalizing start with
  | nil => rfl
  | cons c text ih =>
      rw [utf8Length, List.foldl_cons, List.foldl_cons, ih, ih, Nat.zero_add, Nat.add_assoc]

/-- The UTF-8 length of two texts put together is the sum of their UTF-8 lengths. -/
theorem utf8Length_append (first second : Text) :
    utf8Length (first ++ second) = utf8Length first + utf8Length second := by
  rw [utf8Length, List.foldl_append, foldl_utf8Size]
  rfl

/-! ### Lines -/

/-- The line without a carriage return at its end. Only one is taken away. -/
def dropReturn (line : Text) : Text :=
  if line.getLast? = some '\r' then line.dropLast else line

/-- The lines of the text, without their endings. -/
def lines (text : Text) : List Text :=
  let parts := List.splitOn '\n' text
  parts.dropLast.map dropReturn ++ parts.getLast?.toList.filter (· ≠ [])

/-- The line with the given number, counted from one. There is no line zero. -/
def line? (text : Text) (number : Nat) : Option Text :=
  match number with
  | 0 => none
  | index + 1 => (lines text)[index]?

end Text

end Lexical
