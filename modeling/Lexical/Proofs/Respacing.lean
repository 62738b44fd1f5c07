/-
Module: Lexical.Proofs.Respacing
Layer: Proofs
Purpose: Removing comments when blanks are added at the ends of lines. `Text.Respaced` says of two texts that
  the second is the first with blanks added before and behind line feeds; it is built along the first text,
  so a front of the one and what it has become in the other can be taken off together
  (`Respaced.exists_append`) and put back (`Respaced.append`). Added blanks neither close nor open anything
  that the search for comments looks for, so it finds the same in both texts, and what it leaves of them is
  respaced again (`Respaced.exists_strip`): blanks in a block comment are hidden like the rest of it, and
  those behind a line comment go with it.
Imports: Lexical.Proofs.StrippedLines
Main exports: Text.Respaced, Text.Respaced.append, Text.Respaced.exists_append,
  Text.Respaced.exists_mark, Text.Respaced.commentEnd, Text.Respaced.clear, Text.Respaced.hide,
  Text.Respaced.exists_strip
-/

import Lexical.Proofs.StrippedLines

namespace Lexical

namespace Text

/-! ### Respaced texts -/

/-- The second text is the first with a margin added behind every line and before every line but the first.
The texts begin on the line with the first number and end on that with the second; the tail is the margin
behind the last line, and the margin before a line is as wide as the indentation of this line. -/
inductive Respaced (indent : Nat → Nat) (tail : Text) : Nat → Nat → Text → Text → Prop where
  | nil {line : Nat} : Respaced indent tail line line [] tail
  | keep {first last : Nat} {c : Char} {text other : Text} (sameLine : c ≠ '\n')
      (onward : Respaced indent tail first last text other) :
      Respaced indent tail first last (c :: text) (c :: other)
  | feed {first last : Nat} {after before text other : Text} (isMarginAfter : after.IsMargin)
      (isMarginBefore : before.IsMargin) (width : before.length = indent (first + 1))
      (onward : Respaced indent tail (first + 1) last text other) :
      Respaced indent tail first last ('\n' :: text) (after ++ '\n' :: (before ++ other))

namespace Respaced

variable {indent : Nat → Nat} {tail : Text} {first middle last : Nat} {text other : Text}

theorem append {front frontOther : Text} (respaced : Respaced indent [] first middle front frontOther)
    (onward : Respaced indent tail middle last text other) :
    Respaced indent tail first last (front ++ text) (frontOther ++ other) := by
  induction respaced with
  | nil => exact onward
  | keep sameLine _ ih => exact .keep sameLine (ih onward)
  | @feed _ _ after before _ _ isMarginAfter isMarginBefore width _ ih =>
      simp only [List.append_assoc, List.cons_append]
      exact .feed isMarginAfter isMarginBefore width (ih onward)

/-- A front of the text has become a front of the other. -/
theorem exists_append {front : Text} (respaced : Respaced indent tail first last (front ++ text) other) :
    ∃ middle frontOther rest, other = frontOther ++ rest ∧
      Respaced indent [] first middle front frontOther ∧ Respaced indent tail middle last text rest := by
  induction front generalizing first other with
  | nil => exact ⟨first, [], other, rfl, .nil, respaced⟩
  | cons c front ih =>
      cases respaced with
      | keep sameLine onward =>
          obtain ⟨middle, frontOther, rest, rfl, respacedFront, further⟩ := ih onward
          exact ⟨middle, c :: frontOther, rest, rfl, .keep sameLine respacedFront, further⟩
      | @feed _ _ after before _ _ isMarginAfter isMarginBefore width onward =>
          obtain ⟨middle, frontOther, rest, rfl, respacedFront, further⟩ := ih onward
          refine ⟨middle, after ++ '\n' :: (before ++ frontOther), rest, by simp, ?_, further⟩
          exact .feed isMarginAfter isMarginBefore width respacedFront

/-- A text without a line feed stays as it is. -/
theorem refl_of_oneLine (indent : Nat → Nat) (line : Nat) (oneLine : '\n' ∉ text) :
    Respaced indent [] line line text text := by
  induction text with
  | nil => exact .nil
  | cons c text ih =>
      rw [List.mem_cons, not_or] at oneLine
      exact .keep (Ne.symm oneLine.1) (ih oneLine.2)

theorem eq_of_oneLine (respaced : Respaced indent [] first last text other) (oneLine : '\n' ∉ text) :
    other = text ∧ first = last := by
  induction respaced with
  | nil => exact ⟨rfl, rfl⟩
  | keep _ _ ih =>
      obtain ⟨same, sameLine⟩ := ih fun member => oneLine (List.mem_cons_of_mem _ member)
      exact ⟨by rw [same], sameLine⟩
  | feed => exact absurd List.mem_cons_self oneLine

/-- Behind a front without a line feed the texts go on as respaced ones. -/
theorem exists_onward {front : Text} (oneLine : '\n' ∉ front)
    (respaced : Respaced indent tail first last (front ++ text) other) :
    ∃ rest, other = front ++ rest ∧ Respaced indent tail first last text rest := by
  obtain ⟨middle, frontOther, rest, rfl, respacedFront, onward⟩ := respaced.exists_append
  obtain ⟨rfl, rfl⟩ := respacedFront.eq_of_oneLine oneLine
  exact ⟨rest, rfl, onward⟩

end Respaced

/-! ### What stands in a respaced text -/

/-- A character that is no blank does not stand among the blanks of a margin. -/
theorem IsMargin.not_mark {after rest later front : Text} {c : Char} (isMargin : after.IsMargin)
    (oneLine : '\n' ∉ front) (full : isBlank c = false) : after ++ '\n' :: rest ≠ front ++ c :: later := by
  have noFeed : c ≠ '\n' := by
    rintro rfl
    exact absurd full (by decide)
  induction after generalizing front with
  | nil =>
      cases front with
      | nil => exact fun split => noFeed (List.cons.inj split).1.symm
      | cons d front =>
          intro split
          rw [← (List.cons.inj split).1] at oneLine
          exact oneLine List.mem_cons_self
  | cons d after ih =>
      obtain ⟨here, further⟩ := List.forall_mem_cons.mp isMargin
      cases front with
      | nil =>
          intro split
          rw [(List.cons.inj split).1, full] at here
          exact absurd here.1 Bool.false_ne_true
      | cons e front =>
          intro split
          exact ih further (fun member => oneLine (List.mem_cons_of_mem _ member)) (List.cons.inj split).2

namespace Respaced

variable {indent : Nat → Nat} {tail : Text} {first last : Nat} {text other : Text}
variable (isMargin : tail.IsMargin) (respaced : Respaced indent tail first last text other)

include isMargin respaced

/-- A character that is no blank, with what stands before it on its line, stands there in the text. -/
theorem exists_mark {front later : Text} {c : Char} (oneLine : '\n' ∉ front) (full : isBlank c = false)
    (split : other = front ++ c :: later) :
    ∃ rest, text = front ++ c :: rest ∧ Respaced indent tail first last rest later := by
  induction respaced generalizing front with
  | nil =>
      have inTail : c ∈ tail := by
        rw [split]
        simp
      rw [(isMargin c inTail).1] at full
      exact absurd full.symm Bool.false_ne_true
  | keep sameLine onward ih =>
      cases front with
      | nil =>
          obtain ⟨rfl, rfl⟩ := List.cons.inj split
          exact ⟨_, rfl, onward⟩
      | cons d front =>
          obtain ⟨rfl, splitRest⟩ := List.cons.inj split
          obtain ⟨rest, rfl, further⟩ := ih (fun member => oneLine (List.mem_cons_of_mem _ member)) splitRest
          exact ⟨rest, rfl, further⟩
  | feed isMarginAfter => exact absurd split (isMarginAfter.not_mark oneLine full)

/-- The end of a comment in the respaced text is one in the text. -/
theorem commentEnd (ends : ['*', '/'] <:+: other) : ['*', '/'] <:+: text := by
  induction respaced with
  | nil =>
      have inTail : '*' ∈ tail := ends.subset List.mem_cons_self
      exact absurd (isMargin _ inTail).1 (by decide)
  | @keep first last c text other sameLine onward ih =>
      rcases List.infix_cons_iff.mp ends with ⟨later, here⟩ | further
      · have split : c :: other = ['*'] ++ '/' :: later := here.symm
        obtain ⟨rest, splitText, -⟩ :=
          (keep sameLine onward).exists_mark isMargin (by decide) (by decide) split
        rw [splitText]
        exact (List.prefix_append ['*', '/'] rest).isInfix
      · exact List.infix_cons (ih further)
  | @feed first last after before text other isMarginAfter isMarginBefore width onward ih =>
      have blank : ∀ c ∈ after ++ '\n' :: before, isBlank c = true := by
        intro c member
        rcases List.mem_append.mp member with inAfter | behind
        · exact isMarginAfter.blank c inAfter
        · rcases List.mem_cons.mp behind with rfl | inBefore
          · decide
          · exact isMarginBefore.blank c inBefore
      have whole : after ++ '\n' :: (before ++ other) = after ++ '\n' :: before ++ other := by simp
      rw [whole] at ends
      exact List.infix_cons (ih (infix_of_blanks_append (by decide) blank ends))

/-- Where the search for comments finds nothing, it finds nothing in the respaced text. -/
theorem clear (clear : Comment.Clear text) : Comment.Clear other := by
  intro found passed later stands whole
  cases stands with
  | @string body _ free oneLine =>
      have split : other = '"' :: body ++ '"' :: later := by simp [whole]
      obtain ⟨rest, rfl, -⟩ := respaced.exists_mark isMargin (by simp [oneLine]) (by decide) split
      exact oneLine clear.unclosed
  | @block body _ noEnd =>
      have split : other = ['/'] ++ '*' :: (body ++ '*' :: '/' :: later) := by simp [whole]
      obtain ⟨rest, rfl, onward⟩ := respaced.exists_mark isMargin (by decide) (by decide) split
      have ends : ['*', '/'] <:+: body ++ '*' :: '/' :: later := ⟨body, later, by simp⟩
      obtain ⟨before, after, restEq⟩ := onward.commentEnd isMargin ends
      have closed : rest = before ++ '*' :: '/' :: after := by simp [← restEq]
      rw [closed] at clear
      exact clear.not_block
  | @line body _ oneLine ends =>
      have split : other = ['/'] ++ '/' :: (body ++ later) := by simp [whole]
      obtain ⟨rest, rfl, -⟩ := respaced.exists_mark isMargin (by decide) (by decide) split
      exact clear.not_line

end Respaced

/-! ### Removing the comments of a respaced text -/

open Comment

/-- Blanks are no comments. -/
theorem IsMargin.strip_append {margin : Text} (isMargin : margin.IsMargin) (text : Text) :
    strip (margin ++ text) = margin ++ strip text :=
  strip_plain_append (fun c member => isPlain_of_isBlank (isMargin.blank c member)) text

/-- In a block comment a margin becomes one of spaces. -/
theorem IsMargin.hide {margin : Text} (isMargin : margin.IsMargin) :
    Part.shown (some .block, margin) = List.replicate margin.length ' ' := by
  rw [List.eq_replicate_iff]
  refine ⟨List.length_map _, fun c member => ?_⟩
  obtain ⟨d, inMargin, rfl⟩ := List.mem_map.mp member
  exact if_neg (isMargin d inMargin).2

namespace Respaced

variable {indent : Nat → Nat} {tail : Text} {first last : Nat} {text other : Text}

/-- Hidden in a block comment, the texts are still respaced. -/
theorem hide (respaced : Respaced indent [] first last text other) :
    Respaced indent [] first last (Part.shown (some .block, text)) (Part.shown (some .block, other)) := by
  induction respaced with
  | nil => exact .nil
  | @keep _ _ c _ _ sameLine _ ih =>
      have space : (if c = '\n' then '\n' else ' ') = ' ' := if_neg sameLine
      rw [Part.shown, Part.shown, List.map_cons, List.map_cons, space]
      exact .keep (by decide) ih
  | @feed _ _ after before text other isMarginAfter isMarginBefore width _ ih =>
      have shown : Part.shown (some .block, after ++ '\n' :: (before ++ other)) =
          Part.shown (some .block, after) ++
            '\n' :: (Part.shown (some .block, before) ++ Part.shown (some .block, other)) := by
        simp [Part.shown]
      rw [shown, isMarginAfter.hide, isMarginBefore.hide]
      exact .feed (.spaces _) (.spaces _) (by rw [List.length_replicate, width]) ih

/-- A block comment becomes one block comment. -/
theorem exists_block {body : Text} (noEnd : ¬ ['*', '/'] <:+: body ++ ['*'])
    (respaced : Respaced indent tail first last ('/' :: '*' :: (body ++ ['*', '/']) ++ text) other) :
    ∃ middle bodyOther rest, other = '/' :: '*' :: (bodyOther ++ ['*', '/']) ++ rest ∧
      ¬ ['*', '/'] <:+: bodyOther ++ ['*'] ∧
      Respaced indent [] first middle ('/' :: '*' :: (body ++ ['*', '/']))
        ('/' :: '*' :: (bodyOther ++ ['*', '/'])) ∧
      Respaced indent tail middle last text rest := by
  have split : '/' :: '*' :: (body ++ ['*', '/']) ++ text =
      ['/', '*'] ++ (body ++ (['*', '/'] ++ text)) := by simp
  rw [split] at respaced
  obtain ⟨behindStart, rfl, fromBody⟩ := respaced.exists_onward (by decide)
  obtain ⟨middle, bodyOther, behindBody, rfl, respacedBody, fromEnd⟩ := fromBody.exists_append
  obtain ⟨rest, rfl, onward⟩ := fromEnd.exists_onward (by decide)
  refine ⟨middle, bodyOther, rest, by simp, fun ends => noEnd ?_, ?_, onward⟩
  · have star : Respaced indent [] middle middle ['*'] ['*'] := refl_of_oneLine indent middle (by decide)
    exact (respacedBody.append star).commentEnd .nil ends
  · refine .keep (by decide) (.keep (by decide) (respacedBody.append ?_))
    exact refl_of_oneLine indent middle (by decide)

/-- At the end of a line the respaced text has a margin. -/
theorem exists_margin (isMargin : tail.IsMargin) (respaced : Respaced indent tail first last text other)
    (atEnd : text.StopsRun (· ≠ '\n')) :
    ∃ after rest newTail, other = after ++ rest ∧ after.IsMargin ∧ rest.StopsRun (· ≠ '\n') ∧
      newTail.IsMargin ∧ Respaced indent newTail first last text rest := by
  cases respaced with
  | nil => exact ⟨tail, [], [], by simp, isMargin, stopsRun_nil _, .nil, .nil⟩
  | keep sameLine onward => exact absurd (stopsRun_cons.mp atEnd) (by simpa using sameLine)
  | @feed _ _ after before _ _ isMarginAfter isMarginBefore width onward =>
      exact ⟨after, _, tail, rfl, isMarginAfter, stopsRun_cons.mpr (by decide), isMargin,
        .feed .nil isMarginBefore width onward⟩

/-- What is left of respaced texts without their comments are respaced texts. Behind the last line the
margin can have gone with a line comment. -/
theorem exists_strip (isMargin : tail.IsMargin) (respaced : Respaced indent tail first last text other) :
    ∃ newTail, newTail.IsMargin ∧ Respaced indent newTail first last (strip text) (strip other) := by
  -- on the parts of the first text; the tail is general, since a line comment leaves none of it
  have parted := parted_parts text
  generalize parts text = cut at parted
  induction parted generalizing tail first other with
  | nil =>
      cases respaced
      refine ⟨tail, isMargin, ?_⟩
      have plain := isMargin.strip_append []
      rw [List.append_nil, strip_nil, List.append_nil] at plain
      rw [strip_nil, plain]
      exact .nil
  | @gap c rest later clear onward ih =>
      rw [strip_gap clear]
      have clearOther := respaced.clear isMargin clear
      cases respaced with
      | keep sameLine further =>
          obtain ⟨newTail, isMarginNew, stripped⟩ := ih isMargin further
          rw [strip_gap clearOther]
          exact ⟨newTail, isMarginNew, .keep sameLine stripped⟩
      | feed isMarginAfter isMarginBefore width further =>
          obtain ⟨newTail, isMarginNew, stripped⟩ := ih isMargin further
          rw [isMarginAfter.strip_append, strip_gap (clear_of_isPlain rfl _), isMarginBefore.strip_append]
          exact ⟨newTail, isMarginNew, .feed isMarginAfter isMarginBefore width stripped⟩
  | @hit found passed rest later stands onward ih =>
      cases stands with
      | @string body _ free oneLine =>
          have oneLinePassed : '\n' ∉ '"' :: (body ++ ['"']) := by simp [oneLine]
          obtain ⟨restOther, rfl, further⟩ := respaced.exists_onward oneLinePassed
          obtain ⟨newTail, isMarginNew, stripped⟩ := ih isMargin further
          rw [strip_hit (.string free oneLine), strip_hit (.string free oneLine)]
          exact ⟨newTail, isMarginNew, (refl_of_oneLine indent first oneLinePassed).append stripped⟩
      | @block body _ noEnd =>
          obtain ⟨middle, bodyOther, restOther, rfl, noEndOther, respacedBlock, further⟩ :=
            respaced.exists_block noEnd
          obtain ⟨newTail, isMarginNew, stripped⟩ := ih isMargin further
          rw [strip_hit (.block noEnd), strip_hit (.block noEndOther)]
          exact ⟨newTail, isMarginNew, respacedBlock.hide.append stripped⟩
      | @line body _ oneLine ends =>
          have oneLinePassed : '\n' ∉ '/' :: '/' :: body := by simp [oneLine]
          obtain ⟨restOther, rfl, further⟩ := respaced.exists_onward oneLinePassed
          obtain ⟨after, atEnd, endTail, rfl, isMarginAfter, stops, isMarginEnd, kept⟩ :=
            further.exists_margin isMargin ends
          obtain ⟨newTail, isMarginNew, stripped⟩ := ih isMarginEnd kept
          have oneLineOther : '\n' ∉ body ++ after := by simp [oneLine, isMarginAfter.oneLine]
          have whole : '/' :: '/' :: body ++ (after ++ atEnd) = '/' :: '/' :: (body ++ after) ++ atEnd := by
            simp
          rw [whole, strip_hit (.line oneLine ends), strip_hit (.line oneLineOther stops)]
          exact ⟨newTail, isMarginNew, stripped⟩

end Respaced

end Text

end Lexical
