/-
Module: Lexical.Proofs.StrippedLines
Layer: Proofs
Purpose: The lines of a stripped source, where nothing that the search for comments finds runs over a line
  feed: they are the stripped lines of the source (`Comment.Parted.splitOn_strip`). A stripped text goes
  like the text itself up to its first blank, has no new characters but blanks, and brings none together
  that were apart; so a stripped line shows the grammar no comment that the line does not show.
Imports: Lexical.Proofs.BlankTails, Lexical.Proofs.Stripping
Main exports: Comment.Parted.splitOn_strip, Comment.isPlain,
  Comment.strip_plain_append, Comment.strip_plain_concat, Comment.opensLike_strip,
  Comment.Parted.infix_of_strip, Comment.exists_commentEnd_of_strip, Comment.commentAt_of_strip
-/

import Lexical.Proofs.BlankTails
import Lexical.Proofs.Stripping

namespace Lexical

namespace Comment

variable {found : Covered} {passed rest text : Text}

/-- What stands at the start of a text also stands there when the text goes on behind a line feed. -/
theorem Stands.append_after {after : Text} (stands : Stands found passed rest)
    (stops : after.StopsRun (· ≠ '\n')) : Stands found passed (rest ++ after) := by
  cases stands with
  | string free oneLineBody => exact .string free oneLineBody
  | block first => exact .block first
  | line oneLineBody ends =>
      apply Stands.line oneLineBody
      cases rest with
      | nil => exact stops
      | cons c rest => exact Text.stopsRun_cons.mpr (Text.stopsRun_cons.mp ends)

/-- What stands at the start of a text without a line feed in it stands in the first line. -/
theorem Stands.of_append {after : Text} (stands : Stands found passed (rest ++ after)) :
    Stands found passed rest := by
  cases stands with
  | string free oneLineBody => exact .string free oneLineBody
  | block first => exact .block first
  | line oneLineBody ends =>
      apply Stands.line oneLineBody
      intro c atHead
      apply ends c
      rw [List.head?_append, atHead]
      rfl

/-- What a stretch without a line feed shows has none either. -/
theorem shown_oneLine (part : Part) (oneLine : '\n' ∉ part.2) : '\n' ∉ part.shown := by
  obtain ⟨found?, text⟩ := part
  cases found? with
  | none => exact oneLine
  | some found =>
      cases found with
      | string => exact oneLine
      | line => exact List.not_mem_nil
      | block =>
          intro member
          obtain ⟨c, inText, shows⟩ := List.mem_map.mp member
          by_cases feed : c = '\n'
          · rw [feed] at inText
            exact oneLine inText
          · rw [if_neg feed] at shows
            exact absurd shows (by decide)

/-- If nothing that is found runs over a line feed, the lines of the stripped source are the stripped lines
of the source. -/
theorem Parted.splitOn_strip {parted : List Part} (cut : Parted text parted)
    (separate : ∀ found passed, (some found, passed) ∈ parted → '\n' ∉ passed) :
    List.splitOn '\n' (strip text) = (List.splitOn '\n' text).map strip := by
  induction cut with
  | nil =>
      rw [strip_nil, List.splitOn_nil, List.map_singleton, strip_nil]
  | @gap c rest later clear onward ih =>
      have lines := ih fun found passed member => separate found passed (List.mem_cons_of_mem _ member)
      obtain ⟨line, more, after, parts, split, -, stops⟩ := Text.exists_firstLine rest
      rw [strip_gap clear]
      by_cases feed : c = '\n'
      · rw [feed, Text.splitOn_cons_self, Text.splitOn_cons_self, lines, List.map_cons, strip_nil]
      · have clearLine : Clear (c :: line) := by
          intro found passed behind stands whole
          apply clear _ _ _ (stands.append_after stops)
          rw [split, ← List.cons_append, whole, List.append_assoc]
        rw [Text.splitOn_cons_of_ne _ feed, Text.splitOn_cons_of_ne _ feed, lines, parts, List.map_cons,
          List.modifyHead_cons, List.modifyHead_cons, List.map_cons, strip_gap clearLine]
  | @hit found passed rest later stands onward ih =>
      have lines := ih fun found passed member => separate found passed (List.mem_cons_of_mem _ member)
      have oneLine : '\n' ∉ passed := separate found passed List.mem_cons_self
      obtain ⟨line, more, after, parts, split, -, -⟩ := Text.exists_firstLine rest
      rw [parts, List.map_cons] at lines
      have standsLine : Stands found passed line := by
        rw [split] at stands
        exact stands.of_append
      rw [strip_hit stands, Text.splitOn_append_of_oneLine (shown_oneLine _ oneLine) lines,
        Text.splitOn_append_of_oneLine oneLine parts, List.map_cons, strip_hit standsLine]

/-! ### One line -/

/-- What begins with neither a quotation mark nor a slash is left alone. -/
def isPlain (c : Char) : Bool :=
  c != '"' && c != '/'

theorem clear_of_isPlain {c : Char} (plain : isPlain c = true) (rest : Text) : Clear (c :: rest) := by
  intro found passed behind stands whole
  simp only [isPlain, Bool.and_eq_true, bne_iff_ne] at plain
  cases stands with
  | string => exact plain.1 (List.cons.inj whole).1
  | block => exact plain.2 (List.cons.inj whole).1
  | line => exact plain.2 (List.cons.inj whole).1

theorem strip_plain_append {run : Text} (plain : ∀ c ∈ run, isPlain c = true) (rest : Text) :
    strip (run ++ rest) = run ++ strip rest := by
  induction run with
  | nil => rfl
  | cons c run ih =>
      obtain ⟨here, further⟩ := List.forall_mem_cons.mp plain
      rw [List.cons_append, strip_gap (clear_of_isPlain here _), ih further]
      rfl

theorem strip_plain_concat {run : Text} {c : Char} (plain : ∀ d ∈ run, isPlain d = true)
    (last : isPlain c = true) (rest : Text) : strip (run ++ c :: rest) = run ++ c :: strip rest := by
  rw [strip_plain_append plain, strip_gap (clear_of_isPlain last rest)]

/-- Word characters are plain. -/
theorem isPlain_of_isWord {c : Char} (word : Text.isWord c = true) : isPlain c = true := by
  rw [isPlain, Bool.and_eq_true, bne_iff_ne, bne_iff_ne]
  exact ⟨Text.ne_of_isWord word rfl, Text.ne_of_isWord word rfl⟩

/-- Blanks are plain. -/
theorem isPlain_of_isBlank {c : Char} (blank : Text.isBlank c = true) : isPlain c = true := by
  rw [isPlain, Bool.and_eq_true, bne_iff_ne, bne_iff_ne]
  exact ⟨Text.ne_of_isBlank blank rfl, Text.ne_of_isBlank blank rfl⟩

/-- A slash at which the grammar sees no comment is left alone. -/
theorem clear_of_not_commentAt (noComment : ¬ CommentAt ('/' :: rest)) (oneLine : '\n' ∉ rest) :
    Clear ('/' :: rest) := by
  intro found passed behind stands whole
  apply noComment
  cases stands with
  | string => exact absurd (List.cons.inj whole).1 (by decide)
  | @block body =>
      obtain rfl := (List.cons.inj whole).2
      refine Or.inr ⟨body, behind, by simp, ?_⟩
      intro member
      exact oneLine (by simp [member])
  | @line body =>
      obtain rfl := (List.cons.inj whole).2
      refine Or.inl ⟨body ++ behind, rfl, ?_⟩
      intro member
      exact oneLine (List.mem_cons_of_mem _ member)

/-- Behind a line comment the stripped text begins with a blank, as the text does, or is at its end. -/
theorem opensLike_strip_of_line (stands : Stands .line passed rest) (other : Text) :
    (strip rest).OpensLike other := by
  cases stands with
  | line _ ends =>
      cases rest with
      | nil => exact Text.opensLike_nil _
      | cons c rest =>
          have feed : c = '\n' := by simpa using Text.stopsRun_cons.mp ends
          rw [feed, strip_gap (clear_of_isPlain rfl rest)]
          exact Text.opensLike_of_blank _ _ rfl

/-- A stripped text goes like the text itself up to its first blank. -/
theorem Parted.opensLike_strip {parted : List Part} (cut : Parted text parted) :
    (strip text).OpensLike text := by
  induction cut with
  | nil => exact Text.opensLike_refl _
  | @gap c rest later clear onward ih =>
      rw [strip_gap clear]
      exact ih.append [c]
  | @hit found passed rest later stands onward ih =>
      rw [strip_hit stands]
      cases found with
      | string => exact ih.append passed
      | block =>
          cases stands with
          | block => exact Text.opensLike_of_blank _ _ (by decide)
      | line => exact opensLike_strip_of_line stands _

theorem opensLike_strip (text : Text) : (strip text).OpensLike text :=
  (parted_parts text).opensLike_strip

/-- What a block comment shows is blank. -/
theorem blank_of_mem_shown {c : Char} (member : c ∈ Part.shown (some .block, passed)) :
    Text.isBlank c = true := by
  obtain ⟨d, -, rfl⟩ := List.mem_map.mp member
  split <;> decide

/-- Words without a blank that stand in a stripped text stand in the text itself: nothing that is left out
brings their characters together. -/
theorem Parted.infix_of_strip {parted : List Part} {c : Char} {words : Text} (cut : Parted text parted)
    (full : ∀ d ∈ c :: words, Text.isBlank d = false) (inside : c :: words <:+: strip text) :
    c :: words <:+: text := by
  induction cut with
  | nil => rwa [strip_nil] at inside
  | @gap d rest later clear onward ih =>
      rw [strip_gap clear] at inside
      rcases List.infix_cons_iff.mp inside with opens | further
      · exact (((Comment.opensLike_strip rest).append [d]).stands_of_full opens full).isInfix
      · exact List.infix_cons (ih further)
  | @hit found passed rest later stands onward ih =>
      have behind : c :: words <:+: strip rest → c :: words <:+: passed ++ rest := fun further =>
        List.IsInfix.trans (ih further) (List.suffix_append _ _).isInfix
      rw [strip_hit stands] at inside
      cases found with
      | line => exact behind inside
      | block =>
          apply behind
          exact Text.infix_of_blanks_append (full c List.mem_cons_self) (fun _ => blank_of_mem_shown) inside
      | string =>
          rcases List.infix_append_iff.mp inside with here | further | ⟨first, last, split, ends, opens⟩
          · exact List.IsInfix.trans here (List.prefix_append _ _).isInfix
          · exact behind further
          · have fullLast : ∀ d ∈ last, Text.isBlank d = false := fun d member =>
              full d (split ▸ List.mem_append_right first member)
            have opensRest := (Comment.opensLike_strip rest).stands_of_full opens fullLast
            exact List.infix_append_iff.mpr (Or.inr (Or.inr ⟨first, last, split, ends, opensRest⟩))

/-- A stripped line has no characters that are new, except for blanks. -/
theorem Parted.mem_of_mem_strip {parted : List Part} (cut : Parted text parted) {c : Char}
    (full : Text.isBlank c = false) (member : c ∈ strip text) : c ∈ text := by
  induction cut with
  | nil =>
      rw [strip_nil] at member
      exact member
  | gap clear onward ih =>
      rw [strip_gap clear] at member
      rcases List.mem_cons.mp member with rfl | further
      · exact List.mem_cons_self
      · exact List.mem_cons_of_mem _ (ih further)
  | @hit found passed rest later stands onward ih =>
      rw [strip_hit stands] at member
      rcases List.mem_append.mp member with here | further
      · cases found with
        | string => exact List.mem_append_left _ here
        | line => exact absurd here List.not_mem_nil
        | block =>
            have blank := blank_of_mem_shown here
            simp [full] at blank
      · exact List.mem_append_right _ (ih further)

/-- The start of a block comment that is closed behind a stripped text is closed behind the text itself. -/
theorem exists_commentEnd_of_strip {body behind : Text}
    (closed : strip rest = '*' :: (body ++ '*' :: '/' :: behind)) :
    ∃ before after, rest = '*' :: (before ++ '*' :: '/' :: after) := by
  obtain ⟨more, rfl⟩ : ['*'] <+: rest :=
    (opensLike_strip rest).stands_of_full ⟨_, closed.symm⟩ (List.forall_mem_singleton.mpr rfl)
  rw [List.singleton_append, strip_gap (clear_of_isPlain rfl more)] at closed
  have full : ∀ c ∈ ['*', '/'], Text.isBlank c = false :=
    List.forall_mem_cons.mpr ⟨by decide, List.forall_mem_singleton.mpr (by decide)⟩
  have inside : ['*', '/'] <:+: strip more := ⟨body, behind, by simp [(List.cons.inj closed).2]⟩
  obtain ⟨before, after, rfl⟩ := (parted_parts more).infix_of_strip full inside
  exact ⟨before, after, by simp⟩

/-- The grammar sees no comment in a stripped line that it does not see in the line itself. -/
theorem commentAt_of_strip (oneLine : '\n' ∉ rest) (fits : CommentAt ('/' :: strip rest)) :
    CommentAt ('/' :: rest) := by
  have like := opensLike_strip rest
  rcases fits with ⟨body, split, -⟩ | ⟨body, behind, split, -⟩
  · obtain ⟨more, rfl⟩ : ['/'] <+: rest :=
      like.stands_of_full ⟨body, (List.cons.inj split).2.symm⟩ (List.forall_mem_singleton.mpr rfl)
    exact Or.inl ⟨more, rfl, fun member => oneLine (List.mem_cons_of_mem _ member)⟩
  · obtain ⟨before, after, rfl⟩ := exists_commentEnd_of_strip (List.cons.inj split).2
    exact Or.inr ⟨before, after, rfl, fun member => oneLine (by simp [member])⟩

end Comment

end Lexical
