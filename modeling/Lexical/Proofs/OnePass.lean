/-
Module: Lexical.Proofs.OnePass
Layer: Proofs
Purpose: The removal of comments in one pass. An automaton goes over the source from left to right; it
  knows only what it is inside of, and looks no farther than one character ahead. `Mode.Shows` says of each
  mode what stands before the automaton and what is due to come of it. Every rule of the automaton keeps
  this (`Mode.Shows.open_string` and the lemmas behind it), so that a whole pass shows the stripped source,
  unless a string runs over a line feed or something is left open at the end.
Imports: Lexical.Proofs.Stripping
Main exports: Comment.Mode, Comment.Pass, Comment.pass, Comment.Pass.Settled, Comment.Mode.Shows,
  Comment.shows_pass, Comment.strip_eq_pass
-/

import Lexical.Proofs.Stripping

namespace Lexical.Comment

/-! ### The automaton -/

/-- What the automaton is inside of. -/
inductive Mode where
  | code
  | string
  | line
  | block
deriving DecidableEq, Repr

/-- What comes of a pass over a text. -/
structure Pass where
  /-- What the automaton has put out. -/
  shown : Text
  /-- What it is inside of at the end. -/
  last : Mode
  /-- Whether it has met a line feed inside a string. -/
  torn : Bool
deriving DecidableEq, Repr

/-- The pass with more put out in front. -/
def Pass.after (later : Pass) (shown : Text) : Pass :=
  { later with shown := shown ++ later.shown }

/-- The pass of the automaton over a text, from inside of the mode on. A mark of two characters is passed
as a whole: the second one of `/*` is not looked at again, so that `/*/` closes nothing. -/
def pass : Mode → Text → Pass
  | .code, '"' :: rest => (pass .string rest).after ['"']
  | .code, '/' :: '/' :: rest => pass .line rest
  | .code, '/' :: '*' :: rest => (pass .block rest).after [' ', ' ']
  | .code, c :: rest => (pass .code rest).after [c]
  | .string, '"' :: rest => (pass .code rest).after ['"']
  | .string, '\n' :: rest => { (pass .string rest).after ['\n'] with torn := true }
  | .string, c :: rest => (pass .string rest).after [c]
  | .line, '\n' :: rest => (pass .code rest).after ['\n']
  | .line, _ :: rest => pass .line rest
  | .block, '*' :: '/' :: rest => (pass .code rest).after [' ', ' ']
  | .block, '\n' :: rest => (pass .block rest).after ['\n']
  | .block, _ :: rest => (pass .block rest).after [' ']
  | mode, [] => { shown := [], last := mode, torn := false }

/-- No string runs over a line feed, and at the end neither a string nor a block comment is open. -/
structure Pass.Settled (pass : Pass) : Prop where
  whole : pass.torn = false
  closed : pass.last = .code ∨ pass.last = .line

theorem Pass.Settled.of_after {later : Pass} {shown : Text} (settled : (later.after shown).Settled) :
    later.Settled :=
  ⟨settled.whole, settled.closed⟩

/-! ### What each rule keeps -/

/-- From inside of the mode on, the text is due to be shown like this. -/
inductive Mode.Shows : Mode → Text → Text → Prop where
  /-- In code, the text is stripped. -/
  | code (text : Text) : Shows .code text (strip text)
  /-- A string is closed on its line, and shown up to there. -/
  | string {body rest : Text} (free : '"' ∉ body) (oneLine : '\n' ∉ body) :
      Shows .string (body ++ '"' :: rest) (body ++ '"' :: strip rest)
  /-- A line comment is dropped up to the end of its line. -/
  | line {body rest : Text} (oneLine : '\n' ∉ body) (ends : rest.StopsRun (· ≠ '\n')) :
      Shows .line (body ++ rest) (strip rest)
  /-- A block comment is blanked up to its first end. -/
  | block {body rest : Text} (first : ¬ ['*', '/'] <:+: body ++ ['*']) :
      Shows .block (body ++ '*' :: '/' :: rest)
        (Part.shown (some .block, body) ++ ' ' :: ' ' :: strip rest)

/-- What begins with no quotation mark, with no two slashes and with no `/*` is clear. -/
theorem clear_of_not_mark {c : Char} {rest : Text} (noQuote : c ≠ '"') (noLine : ¬ ['/', '/'] <+: c :: rest)
    (noBlock : ¬ ['/', '*'] <+: c :: rest) : Clear (c :: rest) := by
  intro found passed behind stands whole
  cases stands with
  | string => exact noQuote (List.cons.inj whole).1
  | block => exact noBlock ⟨_, whole.symm⟩
  | line => exact noLine ⟨_, whole.symm⟩

namespace Mode.Shows

variable {c : Char} {rest shown : Text}

theorem open_string (shows : Mode.string.Shows rest shown) : Mode.code.Shows ('"' :: rest) ('"' :: shown) := by
  cases shows with
  | @string body rest free oneLine =>
      have stripped := strip_hit (Stands.string free oneLine : Stands .string _ rest)
      have shows := Shows.code ('"' :: (body ++ ['"']) ++ rest)
      rw [stripped] at shows
      simpa [Part.shown] using shows

theorem open_line (shows : Mode.line.Shows rest shown) : Mode.code.Shows ('/' :: '/' :: rest) shown := by
  cases shows with
  | @line body rest oneLine ends =>
      have shows := Shows.code ('/' :: '/' :: body ++ rest)
      rwa [strip_hit (.line oneLine ends)] at shows

theorem open_block (shows : Mode.block.Shows rest shown) :
    Mode.code.Shows ('/' :: '*' :: rest) (' ' :: ' ' :: shown) := by
  cases shows with
  | @block body rest first =>
      have stripped := strip_hit (Stands.block first : Stands .block _ rest)
      have shows := Shows.code ('/' :: '*' :: (body ++ ['*', '/']) ++ rest)
      rw [stripped] at shows
      simpa [Part.shown] using shows

theorem keep_code (shows : Mode.code.Shows rest shown) (clear : Clear (c :: rest)) :
    Mode.code.Shows (c :: rest) (c :: shown) := by
  cases shows with
  | code =>
      rw [← strip_gap clear]
      exact .code (c :: rest)

theorem close_string (shows : Mode.code.Shows rest shown) :
    Mode.string.Shows ('"' :: rest) ('"' :: shown) := by
  cases shows with
  | code => exact @Shows.string [] rest List.not_mem_nil List.not_mem_nil

theorem keep_string (shows : Mode.string.Shows rest shown) (noQuote : c ≠ '"') (noFeed : c ≠ '\n') :
    Mode.string.Shows (c :: rest) (c :: shown) := by
  cases shows with
  | @string body rest free oneLine =>
      apply @Shows.string (c :: body) rest
      · exact List.not_mem_cons_of_ne_of_not_mem noQuote.symm free
      · exact List.not_mem_cons_of_ne_of_not_mem noFeed.symm oneLine

/-- The line feed behind a line comment is code again. -/
theorem close_line (shows : Mode.code.Shows rest shown) : Mode.line.Shows ('\n' :: rest) ('\n' :: shown) := by
  have clear : Clear ('\n' :: rest) := clear_of_not_mark (by decide) (by simp) (by simp)
  cases shows with
  | code =>
      rw [← strip_gap clear]
      exact @Shows.line [] ('\n' :: rest) List.not_mem_nil (Text.stopsRun_cons.mpr rfl)

theorem drop_line (shows : Mode.line.Shows rest shown) (noFeed : c ≠ '\n') :
    Mode.line.Shows (c :: rest) shown := by
  cases shows with
  | @line body rest oneLine ends =>
      exact @Shows.line (c :: body) rest (List.not_mem_cons_of_ne_of_not_mem noFeed.symm oneLine) ends

theorem close_block (shows : Mode.code.Shows rest shown) :
    Mode.block.Shows ('*' :: '/' :: rest) (' ' :: ' ' :: shown) := by
  cases shows with
  | code => exact @Shows.block [] rest (by decide)

/-- Inside a block comment, a character in front of it begins no end that was not there. -/
theorem blank_block (shows : Mode.block.Shows rest shown) (noEnd : ¬ ['*', '/'] <+: c :: rest) :
    Mode.block.Shows (c :: rest) ((if c = '\n' then '\n' else ' ') :: shown) := by
  cases shows with
  | @block body rest first =>
      apply @Shows.block (c :: body) rest
      rw [List.cons_append, List.infix_cons_iff]
      rintro (opens | further)
      · apply noEnd
        apply opens.trans
        rw [List.prefix_cons_inj, List.prefix_append_right_inj]
        exact ⟨_, rfl⟩
      · exact first further

end Mode.Shows

/-! ### The whole pass -/

/-- Two characters do not stand where the automaton has not met them. -/
theorem pair_unmet {first second c : Char} {rest : Text}
    (unmet : ∀ later, c = first → rest = second :: later → False) : ¬ [first, second] <+: c :: rest := by
  rintro ⟨later, split⟩
  obtain ⟨same, restEq⟩ := List.cons.inj split
  exact unmet later same.symm restEq.symm

/-- A settled pass shows what is due. There is one case for each rule of the automaton. -/
theorem shows_pass (mode : Mode) (text : Text) :
    (pass mode text).Settled → mode.Shows text (pass mode text).shown := by
  fun_induction pass mode text with
  | case1 rest ih => exact fun settled => (ih settled.of_after).open_string
  | case2 rest ih => exact fun settled => (ih settled).open_line
  | case3 rest ih => exact fun settled => (ih settled.of_after).open_block
  | case4 c rest noQuote noLine noBlock ih =>
      intro settled
      apply (ih settled.of_after).keep_code
      exact clear_of_not_mark noQuote (pair_unmet noLine) (pair_unmet noBlock)
  | case5 rest ih => exact fun settled => (ih settled.of_after).close_string
  | case6 rest ih =>
      intro settled
      exact absurd settled.whole (by simp)
  | case7 c rest noQuote noFeed ih => exact fun settled => (ih settled.of_after).keep_string noQuote noFeed
  | case8 rest ih => exact fun settled => (ih settled.of_after).close_line
  | case9 c rest noFeed ih => exact fun settled => (ih settled).drop_line noFeed
  | case10 rest ih => exact fun settled => (ih settled.of_after).close_block
  | case11 rest ih => exact fun settled => (ih settled.of_after).blank_block (by simp)
  | case12 c rest noEnd noFeed ih =>
      intro settled
      have shows := (ih settled.of_after).blank_block (pair_unmet noEnd)
      rwa [if_neg noFeed] at shows
  | case13 mode =>
      intro settled
      rcases settled.closed with rfl | rfl
      · rw [← strip_nil]
        exact .code []
      · rw [← strip_nil]
        exact @Mode.Shows.line [] [] List.not_mem_nil (Text.stopsRun_nil _)

/-- Removing the comments of a source is a single pass of the automaton over it, wherever no string runs over
a line feed and nothing is left open at the end but a line comment. -/
theorem strip_eq_pass (source : Text) (settled : (pass .code source).Settled) :
    strip source = (pass .code source).shown := by
  have shows := shows_pass .code source settled
  generalize (pass .code source).shown = shown at shows
  cases shows with
  | code => rfl

/-- A string with the marks of a comment in it, block comments that share characters with other marks, and
a line comment with a quotation mark up to the end. -/
theorem strip_eq_pass_mixed :
    (pass .code "\"/*\"/*/ \" //\n**/a/ /**/*/b//*\"".toList).Settled ∧
      strip "\"/*\"/*/ \" //\n**/a/ /**/*/b//*\"".toList = "\"/*\"        \n   a/     */b".toList := by
  have settled : (pass .code "\"/*\"/*/ \" //\n**/a/ /**/*/b//*\"".toList).Settled :=
    ⟨by decide, by decide⟩
  exact ⟨settled, (strip_eq_pass _ settled).trans (by decide)⟩

end Lexical.Comment
