/-
Module: Lexical.Proofs.StrippedPlaces
Layer: Proofs
Purpose: Where the tokens of a stripped source stand in the source itself. On a line, the dropped characters
  come last and all others keep their columns, so a token stands in the source where it stands in the
  stripped source, unless a block comment was blanked out inside it. As the removal of comments and the
  grammar stay in step, this can happen only where a quotation mark stands between two apostrophes, and
  there it does happen: the apostrophe does not protect the mark from being taken for the start of a string.
Imports: Lexical.Proofs.BlankTails, Lexical.Proofs.InStep
Main exports: Comment.Mark.map_visible_eq_iff, Comment.marksAt, Text.standsAt_iff, analyze_standsAt_iff,
  analyze_moves_string
-/

import Lexical.Proofs.BlankTails
import Lexical.Proofs.InStep

namespace Lexical

namespace Comment

namespace Mark

/-- Next to a character outside block comments, characters that look as they are belong to none. -/
theorem not_block_of_visible {mark : Mark} {marks : List Mark} (chain : (mark :: marks).IsChain Linked)
    (outside : mark.found? ≠ some .block) (same : ∀ next ∈ marks, next.c = next.visible) :
    ∀ next ∈ marks, next.found? ≠ some .block := by
  induction marks generalizing mark with
  | nil => simp
  | cons next marks ih =>
      obtain ⟨linked, onward⟩ := List.isChain_cons_cons.mp chain
      obtain ⟨sameNext, sameLater⟩ := List.forall_mem_cons.mp same
      have outsideNext : next.found? ≠ some .block := by
        intro isBlock
        have slash := (linked.1 isBlock).resolve_left outside
        simp [visible, if_pos isBlock, slash] at sameNext
      exact List.forall_mem_cons.mpr ⟨outsideNext, ih onward outsideNext sameLater⟩

/-- Characters that begin with no blank look as they are exactly if they belong to no block comment. -/
theorem map_visible_eq_iff {marks : List Mark} (chain : marks.IsChain Linked)
    (full : ∀ c ∈ (marks.map visible).head?, Text.isBlank c = false) :
    marks.map visible = marks.map Mark.c ↔ ∀ mark ∈ marks, mark.found? ≠ some .block := by
  rw [List.map_inj_left]
  constructor
  · intro same
    cases marks with
    | nil => simp
    | cons mark marks =>
        have outside : mark.found? ≠ some .block := by
          intro isBlock
          have notBlank := full mark.visible rfl
          rw [visible, if_pos isBlock] at notBlank
          cases notBlank
        refine List.forall_mem_cons.mpr ⟨outside, not_block_of_visible chain outside ?_⟩
        exact fun next inMarks => (same next (List.mem_cons_of_mem _ inMarks)).symm
  · intro outside mark member
    rw [visible, if_neg (outside mark member)]

end Mark

/-- The characters of the source from a column of a line on. -/
def marksAt (source : Text) (index column length : Nat) : List Mark :=
  ((marks source).drop (source.lineStart index + (column - 1))).take length

end Comment

/-- Behind the front of a line, a literal stands exactly where the characters are the literal. -/
theorem Text.standsAt_iff {literal before stretch after : Text}
    (sameLength : literal.length = stretch.length) :
    literal.StandsAt (before.length + 1) (before ++ (stretch ++ after)) ↔ literal = stretch := by
  constructor
  · rintro ⟨front, behind, split, column⟩
    have sameFront : before.length = front.length := by omega
    rw [List.append_assoc] at split
    have rest := (List.append_inj split sameFront).2
    exact (List.append_inj rest sameLength.symm).1.symm
  · rintro rfl
    exact ⟨before, after, (List.append_assoc ..).symm, rfl⟩

/-- A lexeme of a stripped line stands in the line itself exactly if none of its characters was blanked
out. -/
theorem Comment.standsAt_iff_of_split {source : Text} {index : Nat} {before kept dropped after : List Mark}
    (split : marks source = before ++ (kept ++ (dropped ++ after)))
    (place : before.length = source.lineStart index) {lexeme : Lexeme}
    (member : lexeme ∈ (readLine (kept.map Mark.visible)).lexemes) :
    lexeme.literal.StandsAt lexeme.column ((kept ++ dropped).map Mark.c) ↔
      ∀ mark ∈ marksAt source index lexeme.column lexeme.literal.length, mark.found? ≠ some .block := by
  have full : ∀ c ∈ lexeme.literal.head?, Text.isBlank c = false :=
    ((reads_readLine _).forced_alone _ member).head_not_blank (by simp)
  obtain ⟨-, front, behind, splitShown, sameColumn⟩ := (reads_readLine _).standsAt _ member
  -- the characters of the source that the literal is made of
  obtain ⟨kept, keptBehind, rfl, sameFront, -⟩ := List.map_eq_append_iff.mp splitShown
  obtain ⟨keptFront, stretch, rfl, rfl, literalEq⟩ := List.map_eq_append_iff.mp sameFront
  have columnEq : lexeme.column = (keptFront.map Mark.c).length + 1 := by
    rw [List.length_map] at sameColumn ⊢
    exact sameColumn.trans (Nat.add_comm _ _)
  have splitStretch : marks source =
      (before ++ keptFront) ++ (stretch ++ (keptBehind ++ (dropped ++ after))) := by
    rw [split]
    simp only [List.append_assoc]
  have chain : stretch.IsChain Mark.Linked := by
    have whole := (parted_parts source).isChain
    rw [← marks, splitStretch] at whole
    exact whole.right_of_append.left_of_append
  have marksAtEq : marksAt source index lexeme.column lexeme.literal.length = stretch := by
    have skipped : source.lineStart index + (lexeme.column - 1) = (before ++ keptFront).length := by
      rw [columnEq, Nat.add_sub_cancel, List.length_append, List.length_map, place]
    rw [marksAt, splitStretch, skipped, List.drop_left, ← literalEq, List.length_map, List.take_left]
  have sameLine : (keptFront ++ stretch ++ keptBehind ++ dropped).map Mark.c =
      keptFront.map Mark.c ++ (stretch.map Mark.c ++ (keptBehind ++ dropped).map Mark.c) := by
    simp only [List.map_append, List.append_assoc]
  rw [← literalEq] at full
  rw [marksAtEq, columnEq, ← literalEq, sameLine, Text.standsAt_iff (by simp),
    Mark.map_visible_eq_iff chain full]

/-- Where the line begins in step and no quotation mark stands between two apostrophes, all lexemes of the
stripped line stand in the line itself. -/
theorem Comment.InStep.standsAt {kept dropped after : List Mark}
    (inStep : InStep (kept ++ (dropped ++ after))) (ends : Mark.Kept kept (dropped ++ after))
    (noMark : ¬ ['\'', '"', '\''] <:+: (kept ++ (dropped ++ after)).map Mark.c)
    (noFault : (readLine (kept.map Mark.visible)).misreading? = none) {lexeme : Lexeme}
    (member : lexeme ∈ (readLine (kept.map Mark.visible)).lexemes) :
    lexeme.literal.StandsAt lexeme.column ((kept ++ dropped).map Mark.c) := by
  obtain ⟨pieces, cut, lexemes⟩ := (reads_readLine _).exists_cut noFault
  rw [lexemes] at member
  obtain ⟨front, stretch, behind, rfl, place, same⟩ :=
    inStep.lexemes_stand cut 1 ends noMark rfl lexeme member
  refine ⟨front.map Mark.c, (behind ++ dropped).map Mark.c, ?_, ?_⟩
  · rw [← same]
    simp only [List.map_append, List.append_assoc]
  · rw [place, List.length_map, Nat.add_comm]

/-- A token of the stripped source has its line in the source, and it stands there at its column exactly
if none of its characters was blanked out as part of a block comment. Where the source has no quotation mark
between two apostrophes, none of them was. -/
theorem analyze_standsAt_iff {source : Text} {table : Table} (analyzed : analyze source = .ok table)
    {token : Token} (member : token ∈ table.tokens) :
    ∃ index line, token.position.line = index + 1 ∧ (List.splitOn '\n' source)[index]? = some line ∧
      (token.literal.StandsAt token.position.column line ↔
        ∀ mark ∈ Comment.marksAt source index token.position.column token.literal.length,
          mark.found? ≠ some .block) ∧
      (¬ ['\'', '"', '\''] <:+: source → token.literal.StandsAt token.position.column line) := by
  obtain ⟨noError, tokens⟩ := tokenize_eq_ok_iff_readings.mp analyzed
  rw [tokens, mem_tokensFrom] at member
  obtain ⟨index, reading, lexeme, isReading, inReading, rfl⟩ := member
  have noFault := firstError?_eq_none_iff.mp noError reading (List.mem_of_getElem? isReading)
  rw [readings, List.getElem?_map, Option.map_eq_some_iff] at isReading
  obtain ⟨shown, isShown, rfl⟩ := isReading
  obtain ⟨before, kept, dropped, after, split, place, feed, isLine, rfl, ends⟩ :=
    Comment.exists_line isShown
  refine ⟨index, _, Nat.add_comm 1 index, isLine, ?_, fun noMark => ?_⟩
  · exact Comment.standsAt_iff_of_split split place inReading
  · apply (Comment.inStep_of_split split feed).standsAt ends _ noFault inReading
    intro inside
    apply noMark
    have whole := Comment.map_c_marks source
    rw [split, List.map_append] at whole
    exact List.IsInfix.trans inside (List.IsSuffix.isInfix ⟨_, whole⟩)

/-- A word behind a comment. -/
theorem analyze_standsAt_iff_behind_comment :
    analyze "/**/a".toList =
        .ok { entries := #[{ category := .identifier, literal := ['a'], position := ⟨1, 5⟩ }] } ∧
      ∃ index line, 1 = index + 1 ∧ (List.splitOn '\n' "/**/a".toList)[index]? = some line ∧
        (Text.StandsAt ['a'] 5 line ↔
          ∀ mark ∈ Comment.marksAt "/**/a".toList index 5 1, mark.found? ≠ some .block) ∧
        (¬ ['\'', '"', '\''] <:+: "/**/a".toList → Text.StandsAt ['a'] 5 line) := by
  have stripped : Comment.strip "/**/a".toList = "    a".toList := by decide
  have blank : ∀ {rest : Text}, Forced (.blank ' ') rest := .blank (by decide)
  have word : Forced (.lexeme (wordCategory ['a']) ['a']) [] :=
    .word rfl (List.forall_mem_nil _) (Text.stopsRun_nil _)
  have cut : Cut "    a".toList
      [.blank ' ', .blank ' ', .blank ' ', .blank ' ', .lexeme (wordCategory ['a']) ['a']] :=
    .cons blank (.cons blank (.cons blank (.cons blank (.cons word .nil))))
  have notKeyword : wordCategory ['a'] = .identifier := by decide
  rw [notKeyword] at cut
  have analyzed : analyze "/**/a".toList =
      .ok { entries := #[{ category := .identifier, literal := ['a'], position := ⟨1, 5⟩ }] } := by
    rw [analyze, stripped]
    exact tokenize_of_cut rfl cut
  exact ⟨analyzed, analyze_standsAt_iff analyzed (List.mem_singleton.mpr rfl)⟩

/-- The quotation mark between two apostrophes is taken for the start of a string, and so the string behind
it is not protected: what looks like a comment in it is blanked out. -/
theorem analyze_moves_string :
    ¬ ∀ source table token, analyze source = .ok table → token ∈ table.tokens →
      ∃ line, (List.splitOn '\n' source)[token.position.line - 1]? = some line ∧
        token.literal.StandsAt token.position.column line := by
  intro everywhere
  have stripped : Comment.strip "'\"'\"/**/\"".toList = "'\"'\"    \"".toList := by decide
  have char : Forced (.lexeme .char "'\"'".toList) "\"    \"".toList :=
    @Forced.char ['"'] _ (by decide) (by decide) (by decide)
  have string : Forced (.lexeme .string "\"    \"".toList) [] :=
    @Forced.string "    ".toList _ (by decide) (by decide)
  have cut : Cut "'\"'\"    \"".toList
      [.lexeme .char "'\"'".toList, .lexeme .string "\"    \"".toList] :=
    .cons char (.cons string .nil)
  have analyzed : analyze "'\"'\"/**/\"".toList = .ok { entries := #[
      { category := .char, literal := "'\"'".toList, position := ⟨1, 1⟩ },
      { category := .string, literal := "\"    \"".toList, position := ⟨1, 4⟩ }] } := by
    rw [analyze, stripped]
    exact tokenize_of_cut rfl cut
  obtain ⟨line, isLine, stands⟩ := everywhere _ _
    { category := .string, literal := "\"    \"".toList, position := ⟨1, 4⟩ } analyzed
    (List.mem_cons_of_mem _ List.mem_cons_self)
  obtain rfl : "'\"'\"/**/\"".toList = line := Option.some.inj isLine
  have sameText :=
    @Text.standsAt_iff "\"    \"".toList "'\"'".toList "\"/**/\"".toList [] rfl
  exact absurd (sameText.mp stands) (by decide)

end Lexical
