/-
Module: Lexical.Proofs.ErrorPlaces
Layer: Proofs
Purpose: Where the error of a source stands, and how far it reaches. A line with a fault falls into what is
  read of it and what is stuck (`Reads.exists_fault`): the characters that the fault reports are what stands
  at its column, no blank begins or ends them (`Text.Solid`), and in front of them the line is read as if it
  ended there. The error of a source is the fault of the first of its lines that has one, with the number of
  this line. Characters that belong to no lexeme are reported in two ways, and the first of them alone decides
  which: behind a letter or a digit of ASCII everything goes up to the next blank, and any other character
  only brings its run of signs. A character literal that is too long is reported with both apostrophes.
Imports: Lexical.Proofs.BlankTails
Main exports: Text.Solid, Stuck.literal_prefix, Stuck.solid, Reads.exists_fault, exists_line_of_firstError?,
  exists_stuck_of_tokenize_error, tokenize_error_stands, Stuck.unknownToken_extent,
  Stuck.invalidCharLiteral_extent, tokenize_error_extent
-/

import Lexical.Proofs.BlankTails

namespace Lexical

/-! ### The characters that are reported -/

/-- There is something in the text, and it neither begins nor ends with a blank. -/
structure Text.Solid (text : Text) : Prop where
  nonempty : text ≠ []
  head : ∀ c ∈ text.head?, isBlank c = false
  last : ∀ c ∈ text.getLast?, isBlank c = false

theorem Text.solid_of_full {text : Text} (nonempty : text ≠ [])
    (full : ∀ c ∈ text, isBlank c = false) : text.Solid where
  nonempty := nonempty
  head := fun c atHead => full c (List.mem_of_mem_head? atHead)
  last := fun c atEnd => full c (List.mem_of_getLast? atEnd)

/-- What ends with a solid text does not end with a blank. -/
theorem Text.Solid.last_append {text : Text} (solid : text.Solid) (front : Text) :
    ∀ c ∈ (front ++ text).getLast?, isBlank c = false := by
  obtain ⟨init, last, rfl⟩ := (List.eq_nil_or_concat text).resolve_left solid.nonempty
  intro c atEnd
  rw [List.concat_eq_append, ← List.append_assoc, List.getLast?_concat] at atEnd
  apply solid.last c
  rw [List.concat_eq_append, List.getLast?_concat]
  exact atEnd

theorem faultyRun_prefix (text : Text) : faultyRun text <+: text := by
  rw [faultyRun]
  split <;> exact List.takeWhile_prefix _

/-- No blank is reported among the characters that belong to no lexeme. -/
theorem full_of_mem_faultyRun {text : Text} {c : Char} (member : c ∈ faultyRun text) :
    Text.isBlank c = false := by
  rw [faultyRun] at member
  split at member
  · exact Text.isBlank_of_isSign (List.all_eq_true.mp List.all_takeWhile c member)
  · simpa using List.all_eq_true.mp List.all_takeWhile c member

/-- Before a character that is no blank, this character at least is reported. -/
theorem solid_faultyRun {c : Char} {rest : Text} (notBlank : Text.isBlank c = false) :
    (faultyRun (c :: rest)).Solid := by
  refine Text.solid_of_full ?_ fun d member => full_of_mem_faultyRun member
  by_cases sign : Text.isSign c = true
  · rw [faultyRun_of_isSign sign, List.takeWhile_cons_of_pos sign]
    exact List.cons_ne_nil _ _
  · rw [Bool.not_eq_true] at sign
    rw [faultyRun_of_not_isSign sign, List.takeWhile_cons_of_pos (by simp [notBlank])]
    exact List.cons_ne_nil _ _

/-- What a fault reports stands where no piece can be cut off. -/
theorem Stuck.literal_prefix {text : Text} {fault : Fault} (stuck : Stuck text fault) :
    fault.literal <+: text := by
  cases stuck with
  | @longChar body rest => exact ⟨rest, by simp [Fault.literal]⟩
  | openQuote | sign | brokenWord | brokenNumber => exact faultyRun_prefix _

theorem Stuck.solid {text : Text} {fault : Fault} (stuck : Stuck text fault) : fault.literal.Solid := by
  cases stuck with
  | @longChar body rest =>
      have notBlank : Text.isBlank '\'' = false := by decide
      refine ⟨List.cons_ne_nil _ _, fun c atHead => ?_, fun c atEnd => ?_⟩
      · obtain rfl := Option.some.inj atHead
        exact notBlank
      · rw [Fault.literal, ← List.cons_append, List.getLast?_concat] at atEnd
        obtain rfl := Option.some.inj atEnd
        exact notBlank
  | openQuote quote => exact solid_faultyRun (Text.of_quote quote).1
  | sign sign => exact solid_faultyRun (Text.isBlank_of_isSign sign)
  | brokenWord begins =>
      exact solid_faultyRun (Text.isBlank_of_continuesWord (Text.continuesWord_of_beginsWord begins))
  | brokenNumber nonempty all =>
      obtain ⟨digit, more, rfl⟩ := List.exists_cons_of_ne_nil nonempty
      have isDigit := all digit List.mem_cons_self
      exact solid_faultyRun (Text.isBlank_of_continuesWord (Text.continuesWord_of_isDigit isDigit))

/-! ### The fault of a line -/

/-- A comment that fits at the start of a stretch of a line fits in the line. -/
theorem commentAt_of_prefix {stretch text : Text} (stands : stretch <+: text) (oneLine : '\n' ∉ text)
    (fits : CommentAt stretch) : CommentAt text := by
  obtain ⟨more, rfl⟩ := stands
  rcases fits with ⟨body, rfl, -⟩ | ⟨body, rest, rfl, oneLineBody⟩
  · refine Or.inl ⟨body ++ more, rfl, fun member => oneLine ?_⟩
    exact List.mem_cons_of_mem _ (List.mem_cons_of_mem _ member)
  · exact Or.inr ⟨body, rest ++ more, by simp, oneLineBody⟩

/-- A piece is also forced by a line that ends earlier behind it, unless it is a comment up to the end of the
line. -/
theorem Forced.of_prefix {piece : Piece} {rest short : Text} (forced : Forced piece rest)
    (stands : short <+: rest) (oneLine : '\n' ∉ piece.text ++ rest)
    (noLine : ∀ body, piece ≠ .comment ('/' :: '/' :: body)) : Forced piece short := by
  apply forced.of_opensLike ((List.takeWhile_prefix _).trans stands) noLine
  exact commentAt_of_prefix ((List.prefix_append_right_inj _).mpr stands) oneLine

/-- Where the fault of a text stands, no piece can be cut off. A line that ends in front of its fault has the
same lexemes and no fault. -/
theorem Reads.exists_fault {column : Nat} {text : Text} {reading : Reading}
    (reads : Reads column text reading) {misreading : Misreading}
    (misread : reading.misreading? = some misreading) :
    ∃ before behind, text = before ++ behind ∧ misreading.column = column + before.length ∧
      Stuck behind misreading.fault ∧
        ('\n' ∉ text → Reads column before { reading with misreading? := none }) := by
  induction reads with
  | done => exact absurd misread (by simp)
  | @piece column piece rest later forced onward ih =>
      obtain ⟨before, behind, rfl, place, stuck, readsBefore⟩ := ih misread
      have noLine : ∀ body, piece ≠ .comment ('/' :: '/' :: body) := by
        rintro body rfl
        -- behind such a comment nothing is left that could be wrong
        generalize atEnd : before ++ behind = rest at forced
        cases forced with
        | lineComment => exact stuck.text_ne_nil (List.append_eq_nil_iff.mp atEnd).2
      refine ⟨piece.text ++ before, behind, (List.append_assoc _ _ _).symm, ?_, stuck, fun oneLine => ?_⟩
      · rw [place, List.length_append, Nat.add_assoc]
      · have oneLineRest : '\n' ∉ before ++ behind := fun member => oneLine (List.mem_append_right _ member)
        exact .piece (forced.of_prefix (List.prefix_append _ _) oneLine noLine) (readsBefore oneLineRest)
  | stuck stuck =>
      obtain rfl := Option.some.inj misread
      exact ⟨[], _, rfl, rfl, stuck, fun _ => .done⟩
  | @brokenFraction column c digits decimals rest nonempty all nonemptyDecimals allDecimals =>
      obtain rfl := Option.some.inj misread
      obtain ⟨digit, more, rfl⟩ := List.exists_cons_of_ne_nil nonemptyDecimals
      refine ⟨digits, _, rfl, rfl, stuck_point (allDecimals digit List.mem_cons_self), fun _ => ?_⟩
      have noFraction : ¬ FractionAt [] := by simp [FractionAt]
      have reads : Reads column (digits ++ []) _ :=
        .piece (.whole nonempty all (Text.stopsRun_nil _) noFraction) .done
      rwa [List.append_nil] at reads

/-! ### The error of a source -/

/-- The error is the fault of the first line that has one. -/
theorem exists_of_firstError? {number : Nat} {readings : List Reading} {error : LexicalError}
    (first : firstError? number readings = some error) :
    ∃ before reading after misreading, readings = before ++ reading :: after ∧
      (∀ earlier ∈ before, earlier.misreading? = none) ∧ reading.misreading? = some misreading ∧
        error = misreading.toError (number + before.length) := by
  induction readings generalizing number with
  | nil => exact absurd first (by simp [firstError?])
  | cons reading readings ih =>
      rw [firstError?] at first
      cases misread : reading.misreading? with
      | some misreading =>
          rw [misread] at first
          exact ⟨[], reading, readings, misreading, rfl, List.forall_mem_nil _, misread,
            (Option.some.inj first).symm⟩
      | none =>
          rw [misread, Option.map_none, Option.none_or] at first
          obtain ⟨before, other, after, misreading, rfl, noFault, misreadOther, rfl⟩ := ih first
          refine ⟨reading :: before, other, after, misreading, rfl,
            List.forall_mem_cons.mpr ⟨misread, noFault⟩, misreadOther, ?_⟩
          rw [List.length_cons, Nat.add_right_comm, Nat.add_assoc]

/-- The error of lines stands on the first line with a fault. -/
theorem exists_line_of_firstError? {lines : List Text} {error : LexicalError}
    (first : firstError? 1 (lines.map readLine) = some error) :
    ∃ before line after misreading, lines = before ++ line :: after ∧
      (∀ earlier ∈ before, (readLine earlier).misreading? = none) ∧
        (readLine line).misreading? = some misreading ∧ error = misreading.toError (before.length + 1) := by
  obtain ⟨earlier, reading, later, misreading, split, noFault, misread, rfl⟩ := exists_of_firstError? first
  obtain ⟨before, lineAndAfter, rfl, rfl, splitRest⟩ := List.map_eq_append_iff.mp split
  obtain ⟨line, after, rfl, rfl, rfl⟩ := List.map_eq_cons_iff.mp splitRest
  refine ⟨before, line, after, misreading, rfl, List.forall_mem_map.mp noFault, misread, ?_⟩
  rw [List.length_map, Nat.add_comm]

/-- The line of an error is in the source, and where the error stands there no piece can be cut off. -/
theorem exists_stuck_of_tokenize_error {source : Text} {error : LexicalError}
    (failed : tokenize source = .error error) :
    ∃ line before behind, source.line? error.position.line = some line ∧ line ∈ source.lines ∧
      line = before ++ behind ∧ error.position.column = before.length + 1 ∧ Stuck behind error.fault := by
  obtain ⟨earlier, line, after, misreading, lines, -, misread, rfl⟩ :=
    exists_line_of_firstError? (tokenize_eq_error_iff.mp failed)
  obtain ⟨before, behind, split, place, stuck, -⟩ := (reads_readLine line).exists_fault misread
  have isLine : source.line? (earlier.length + 1) = some line := by simp [Text.line?, lines]
  exact ⟨line, before, behind, isLine, by simp [lines], split, place.trans (Nat.add_comm _ _), stuck⟩

/-- The error of a source has its line in the source, and what it reports stands there at its column. -/
theorem tokenize_error_stands {source : Text} {error : LexicalError}
    (failed : tokenize source = .error error) :
    ∃ line, source.line? error.position.line = some line ∧ line ∈ source.lines ∧
      error.fault.literal.StandsAt error.position.column line ∧ error.fault.literal.Solid := by
  obtain ⟨line, before, behind, isLine, inLines, rfl, place, stuck⟩ := exists_stuck_of_tokenize_error failed
  obtain ⟨after, rfl⟩ := stuck.literal_prefix
  exact ⟨_, isLine, inLines, ⟨before, after, (List.append_assoc _ _ _).symm, place⟩, stuck.solid⟩

/-! ### How far an error reaches -/

/-- Letters and digits are no signs, and any other character that is not blank is one. -/
theorem Text.isSign_eq_not_isAlphanum {c : Char} (notBlank : isBlank c = false) :
    isSign c = !c.isAlphanum := by
  rw [isSign, notBlank, Bool.not_false, Bool.and_true]

/-- No blank stands where a text is stuck. -/
theorem Stuck.head_not_blank {c : Char} {rest : Text} {fault : Fault} (stuck : Stuck (c :: rest) fault) :
    Text.isBlank c = false := by
  obtain ⟨d, more, literal⟩ := List.exists_cons_of_ne_nil stuck.solid.nonempty
  have stands := stuck.literal_prefix
  have notBlank := stuck.solid.head d
  rw [literal] at stands notBlank
  rw [← (List.cons_prefix_cons.mp stands).1]
  exact notBlank rfl

/-- Of characters that belong to no lexeme, the first one decides how far they are reported. -/
theorem Stuck.unknownToken_extent {text literal : Text} (stuck : Stuck text (.unknownToken literal)) :
    ∃ c ∈ text.head?,
      (c.isAlphanum = true → literal = text.takeWhile (!Text.isBlank ·)) ∧
        (c.isAlphanum = false → literal = text.takeWhile fun d => !d.isAlphanum && !Text.isBlank d) := by
  have reported : literal = faultyRun text := by cases stuck <;> rfl
  obtain ⟨c, rest, rfl⟩ := List.exists_cons_of_ne_nil stuck.text_ne_nil
  have sign := Text.isSign_eq_not_isAlphanum stuck.head_not_blank
  refine ⟨c, rfl, fun alphanumeric => ?_, fun other => ?_⟩
  · rw [reported, faultyRun_of_not_isSign (by rw [sign, alphanumeric]; rfl)]
  · rw [reported, faultyRun_of_isSign (by rw [sign, other]; rfl)]
    rfl

/-- A character literal that is too long is reported from one apostrophe to the next. -/
theorem Stuck.invalidCharLiteral_extent {text literal : Text}
    (stuck : Stuck text (.invalidCharLiteral literal)) :
    ∃ body after, text = '\'' :: (body ++ '\'' :: after) ∧ literal = '\'' :: (body ++ ['\'']) ∧
      '\'' ∉ body ∧ 2 ≤ body.length := by
  cases stuck with
  | @longChar body after oneLine first long => exact ⟨body, after, rfl, rfl, first, long⟩

/-- What the error of a source reports is not empty, stands in its line at its column, and reaches exactly so
far: up to the next blank behind a letter or a digit, over a run of signs behind anything else, and up to the
next apostrophe, behind two characters or more, if it is a character literal. -/
theorem tokenize_error_extent {source : Text} {error : LexicalError}
    (failed : tokenize source = .error error) :
    ∃ line before behind, source.line? error.position.line = some line ∧ line = before ++ behind ∧
      error.position.column = before.length + 1 ∧
      error.fault.literal ≠ [] ∧ error.fault.literal <+: behind ∧
      (∀ literal, error.fault = .unknownToken literal →
        ∃ c ∈ behind.head?,
          (c.isAlphanum = true → literal = behind.takeWhile (!Text.isBlank ·)) ∧
            (c.isAlphanum = false →
              literal = behind.takeWhile fun d => !d.isAlphanum && !Text.isBlank d)) ∧
      ∀ literal, error.fault = .invalidCharLiteral literal →
        ∃ body after, behind = '\'' :: (body ++ '\'' :: after) ∧ literal = '\'' :: (body ++ ['\'']) ∧
          '\'' ∉ body ∧ 2 ≤ body.length := by
  obtain ⟨line, before, behind, isLine, -, split, place, stuck⟩ := exists_stuck_of_tokenize_error failed
  refine ⟨line, before, behind, isLine, split, place, stuck.solid.nonempty, stuck.literal_prefix, ?_, ?_⟩
  · intro literal unknown
    rw [unknown] at stuck
    exact stuck.unknownToken_extent
  · intro literal invalid
    rw [invalid] at stuck
    exact stuck.invalidCharLiteral_extent

/-- A digit in front of a letter of another script: everything up to the blank is reported. -/
theorem tokenize_error_extent_foreign_letter :
    tokenize "x 1é; y".toList = .error { fault := .unknownToken "1é;".toList, position := ⟨1, 3⟩ } ∧
      ∃ line before behind, Text.line? "x 1é; y".toList 1 = some line ∧ line = before ++ behind ∧
        3 = before.length + 1 ∧ "1é;".toList = behind.takeWhile (!Text.isBlank ·) := by
  have word : Forced (.lexeme (wordCategory ['x']) ['x']) " 1é; y".toList :=
    .word rfl (List.forall_mem_nil _) (Text.stopsRun_cons.mpr rfl)
  have stuck : Stuck "1é; y".toList (.unknownToken (faultyRun "1é; y".toList)) :=
    @Stuck.brokenNumber 'é' ['1'] "; y".toList (by decide) (List.all_eq_true.mp rfl) rfl rfl
  have reads : Reads 1 "x 1é; y".toList _ := .piece word (.piece (.blank (by decide)) (.stuck stuck))
  have failed : tokenize "x 1é; y".toList =
      .error { fault := .unknownToken "1é;".toList, position := ⟨1, 3⟩ } :=
    tokenize_of_misread rfl reads rfl
  obtain ⟨line, before, behind, isLine, split, place, -, stands, unknown, -⟩ := tokenize_error_extent failed
  obtain ⟨c, atHead, upToBlank, -⟩ := unknown _ rfl
  refine ⟨failed, line, before, behind, isLine, split, place, upToBlank ?_⟩
  obtain ⟨after, rfl⟩ := stands
  obtain rfl : '1' = c := Option.some.inj atHead
  decide

end Lexical
