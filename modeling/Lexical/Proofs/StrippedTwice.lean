/-
Module: Lexical.Proofs.StrippedTwice
Layer: Proofs
Purpose: Removing comments a second time changes nothing. A place at which nothing is found stays such a
  place when the text behind it is stripped (`Comment.Clear.strip`): no quotation mark finds another one to
  close it, no unclosed block comment is closed, and no two slashes come together. So the search cuts the
  stripped source into what the parts of the source leave there, strings and single characters, and finds
  no comment any more.
Imports: Lexical.Proofs.StrippedColumns, Lexical.Proofs.StrippedLines
Main exports: Comment.exists_quote_of_strip, Comment.Clear.strip, Comment.Part.remains, Comment.parts_strip,
  Comment.strip_strip
-/

import Lexical.Proofs.StrippedColumns
import Lexical.Proofs.StrippedLines

namespace Lexical.Comment

variable {text rest : Text} {parted : List Part}

/-! ### Places at which nothing is found -/

/-- A quotation mark on the first line of a stripped text stands on the first line of the text. -/
theorem exists_quote_of_strip {body behind : Text} (closed : strip rest = body ++ '"' :: behind)
    (oneLine : '\n' ∉ body) : ∃ before after, rest = before ++ '"' :: after ∧ '\n' ∉ before := by
  have noFeed : '"' ≠ '\n' := by decide
  obtain ⟨shown, isShown, inShown⟩ := (Text.mem_firstLine_iff noFeed).mpr ⟨body, behind, closed, oneLine⟩
  obtain ⟨line, isLine, inLine⟩ := exists_mem_line_of_strip isShown inShown (by decide)
  exact (Text.mem_firstLine_iff noFeed).mp ⟨line, isLine, inLine⟩

/-- Where nothing is found, nothing is found either when the text behind the next character is stripped. -/
theorem Clear.strip {c : Char} (clear : Clear (c :: rest)) : Clear (c :: strip rest) := by
  intro found passed behind stands whole
  cases stands with
  | @string body _ free oneLine =>
      obtain ⟨rfl, closed⟩ := List.cons.inj whole
      have closedBehind : Comment.strip rest = body ++ '"' :: behind := by
        rw [closed]
        simp
      obtain ⟨before, after, rfl, oneLineBefore⟩ := exists_quote_of_strip closedBehind oneLine
      exact oneLineBefore clear.unclosed
  | @block body _ first =>
      obtain ⟨rfl, closed⟩ := List.cons.inj whole
      have closedBehind : Comment.strip rest = '*' :: (body ++ '*' :: '/' :: behind) := by
        rw [closed]
        simp
      obtain ⟨before, after, rfl⟩ := exists_commentEnd_of_strip closedBehind
      exact clear.not_block
  | @line body _ _ ends =>
      obtain ⟨rfl, opened⟩ := List.cons.inj whole
      have slash : ['/'] <+: rest :=
        (opensLike_strip rest).stands_of_full ⟨body ++ behind, opened.symm⟩ (List.forall_mem_singleton.mpr rfl)
      obtain ⟨more, rfl⟩ := slash
      exact clear.not_line

/-! ### The parts of a stripped source -/

/-- The parts that a part of the source leaves in the stripped source. Of a block comment these are its
blanks, one by one, and of a line comment there are none. -/
def Part.remains : Part → List Part
  | (some .block, text) => (Part.shown (some .block, text)).map fun c => (none, [c])
  | (some .line, _) => []
  | (some .string, text) => [(some .string, text)]
  | (none, text) => [(none, text)]

/-- A part shows the same as what it leaves. -/
theorem Part.flatMap_shown_remains (part : Part) : part.remains.flatMap Part.shown = part.shown := by
  obtain ⟨found?, text⟩ := part
  match found? with
  | none | some .string => exact List.flatMap_singleton _ _
  | some .line => rfl
  | some .block =>
      rw [remains, List.flatMap_map]
      exact List.flatMap_singleton' _

/-- Of what was found, only strings are left. -/
theorem Part.filter_remains (part : Part) :
    part.remains.filter (·.1.isSome) = [part].filter (·.1 = some .string) := by
  obtain ⟨found?, text⟩ := part
  match found? with
  | none | some .string | some .line => rfl
  | some .block => simp [remains]

theorem filter_flatMap_remains (parted : List Part) :
    (parted.flatMap Part.remains).filter (·.1.isSome) = parted.filter (·.1 = some .string) := by
  induction parted with
  | nil => rfl
  | cons part parted ih =>
      rw [List.flatMap_cons, List.filter_append, Part.filter_remains, ih, ← List.filter_append]
      rfl

/-- In front of a text that is cut into parts, plain characters are parts by themselves. -/
theorem Parted.plain_append {run : Text} (plain : ∀ c ∈ run, isPlain c = true) (cut : Parted text parted) :
    Parted (run ++ text) (run.map (fun c => (none, [c])) ++ parted) := by
  induction run with
  | nil => exact cut
  | cons c run ih =>
      obtain ⟨here, further⟩ := List.forall_mem_cons.mp plain
      exact .gap (clear_of_isPlain here _) (ih further)

/-- The stripped text is cut into what the parts of the text leave. -/
theorem Parted.strip (cut : Parted text parted) :
    Parted (strip text) (parted.flatMap Part.remains) := by
  induction cut with
  | nil =>
      rw [strip_nil]
      exact .nil
  | gap clear onward ih =>
      rw [strip_gap clear]
      exact .gap clear.strip ih
  | @hit found passed rest later stands onward ih =>
      rw [strip_hit stands, List.flatMap_cons]
      cases found with
      | line => exact ih
      | block => exact ih.plain_append fun c member => isPlain_of_isBlank (blank_of_mem_shown member)
      | string =>
          cases stands with
          | string free oneLine => exact .hit (.string free oneLine) ih

/-- The second search takes the same decisions as the first: its parts are what the first ones leave. -/
theorem parts_strip (source : Text) : parts (strip source) = (parts source).flatMap Part.remains :=
  (parted_parts (strip source)).unique (parted_parts source).strip

/-- Removing comments a second time changes nothing. All that is found in the stripped source are the strings
of the source, in their order; there is no comment in it. -/
theorem strip_strip (source : Text) :
    strip (strip source) = strip source ∧
      (parts (strip source)).filter (·.1.isSome) = (parts source).filter (·.1 = some .string) := by
  constructor
  · rw [strip_eq (strip source), parts_strip, List.flatMap_assoc, strip_eq]
    exact congrArg (List.flatMap · _) (funext Part.flatMap_shown_remains)
  · rw [parts_strip, filter_flatMap_remains]

end Lexical.Comment
