/-
Module: Lexical.Proofs.ColumnTracking
Layer: Proofs
Purpose: What a sweep over a line does at one gap and at one match. A stretch at the start of the line
  stands for the place behind it (`Place.behind`), so that a byte and a column come from the same stretch:
  the one is its length in bytes, the other its number of characters and one more. As long as no question
  goes back behind the one before it, all of them are answered in this way (`Sweep.Sound`). A gap and a
  match are then dealt with just as the segments of the line are judged.
Imports: Lexical.Proofs.LineMatches, Lexical.Sweep
Main exports: Place.behind, Text.ColumnAt, ColumnTracker.Tracks, ColumnQuery.Sound, Sweep.Sound,
  Sweep.columnAt?_eq, Sweep.checkGap?_of_blank, Sweep.checkGap?_of_not_blank, Sweep.emit?_eq
-/

import Lexical.Proofs.LineMatches
import Lexical.Sweep

namespace Lexical

/-! ### Places -/

/-- The place of a line behind a stretch at its start. -/
def Place.behind (line front : Text) : Place :=
  (Place.start line).past front

namespace Place

variable {line front : Text}

theorem past_behind (line front passed : Text) :
    (behind line front).past passed = behind line (front ++ passed) :=
  (past_append _ _ _).symm

theorem rest_behind {rest : Text} (split : line = front ++ rest) : (behind line front).rest = rest :=
  rest_past split

theorem column_behind (line front : Text) : (behind line front).column = front.length + 1 := by
  rw [behind, column_past]
  exact Nat.add_comm _ _

end Place

/-! ### Columns -/

/-- The character that begins at the byte stands in the column: the column counts the characters in front
of the byte and one more. -/
def Text.ColumnAt (line : Text) (byte column : Nat) : Prop :=
  ∃ front : Text, front <+: line ∧ front.utf8Length = byte ∧ column = front.length + 1

/-- The tracker is right about the line. -/
def ColumnTracker.Tracks (tracker : ColumnTracker) (line : Text) : Prop :=
  line.ColumnAt tracker.byte tracker.column

/-- The question was answered rightly, by counting on. -/
structure ColumnQuery.Sound (query : ColumnQuery) (line : Text) : Prop where
  /-- The tracker was right when it was asked. -/
  tracks : query.tracker.Tracks line
  /-- It had not passed the byte yet. -/
  onward : query.tracker.byte ≤ query.byte
  /-- The answer is the column at the byte. -/
  answered : line.ColumnAt query.byte query.column

namespace Sweep

/-- The columns of the sweep are right so far. -/
structure Sound (sweep : Sweep) (line : Text) : Prop where
  /-- The tracker is right. -/
  tracks : sweep.tracker.Tracks line
  /-- Every question was answered rightly, by counting on. -/
  answered : ∀ query ∈ sweep.queries, query.Sound line
  /-- No question went back behind an earlier one. -/
  ordered : sweep.queries.Pairwise fun earlier later => earlier.byte ≤ later.byte
  /-- The tracker has reached every byte that it was asked for. -/
  reached : ∀ query ∈ sweep.queries, query.byte ≤ sweep.tracker.byte

variable {sweep : Sweep} {line front : Text}

/-- The sweep after it has asked for the column behind a stretch of its line. -/
def asked (sweep : Sweep) (front : Text) : Sweep :=
  { sweep with
    tracker := { byte := front.utf8Length, column := front.length + 1 }
    queries := sweep.queries ++
      [{ tracker := sweep.tracker, byte := front.utf8Length, column := front.length + 1 }] }

/-- Where the tracker has not passed the byte, the column is the number of characters in front of it and one
more. -/
theorem columnAt?_eq (sound : sweep.Sound line) (stands : front <+: line)
    (onward : sweep.tracker.byte ≤ front.utf8Length) :
    sweep.columnAt? line front.utf8Length = some (front.length + 1, sweep.asked front) := by
  obtain ⟨earlier, standsEarlier, byteEq, columnEq⟩ := sound.tracks
  obtain ⟨passed, rfl⟩ := Text.prefix_of_utf8Length_le standsEarlier stands (byteEq ▸ onward)
  obtain ⟨behind, rfl⟩ := stands
  have counted : sweep.tracker.column + passed.length = (earlier ++ passed).length + 1 := by
    rw [columnEq, List.length_append]
    omega
  rw [columnAt?, ColumnTracker.columnAt?, if_neg (Nat.not_lt.mpr onward), ← byteEq, List.append_assoc,
    Text.slice?_append, Option.map_some, Option.map_some, counted]
  rfl

/-- Asking for a column that has not been passed keeps the columns right. -/
theorem Sound.asked (sound : sweep.Sound line) (stands : front <+: line)
    (onward : sweep.tracker.byte ≤ front.utf8Length) : (sweep.asked front).Sound line := by
  have column : line.ColumnAt front.utf8Length (front.length + 1) := ⟨front, stands, rfl, rfl⟩
  refine ⟨column, ?_, ?_, ?_⟩
  · intro query member
    rcases List.mem_append.mp member with earlier | last
    · exact sound.answered query earlier
    · obtain rfl := List.mem_singleton.mp last
      exact ⟨sound.tracks, onward, column⟩
  · refine List.pairwise_append.mpr ⟨sound.ordered, List.pairwise_singleton _ _, ?_⟩
    intro query earlier last isLast
    obtain rfl := List.mem_singleton.mp isLast
    exact Nat.le_trans (sound.reached query earlier) onward
  · intro query member
    rcases List.mem_append.mp member with earlier | last
    · exact Nat.le_trans (sound.reached query earlier) onward
    · obtain rfl := List.mem_singleton.mp last
      exact Nat.le_refl _

/-- The sweep does what a verdict says. -/
def obey (sweep : Sweep) : Verdict → Turn
  | .skip => { sweep, misreading? := none }
  | .accept lexeme => sweep.accept lexeme
  | .reject misreading => { sweep, misreading? := some misreading }

/-- What a verdict does to a sweep does not touch its columns. -/
theorem Sound.obey (sound : sweep.Sound line) (verdict : Verdict) :
    (sweep.obey verdict).sweep.Sound line := by
  cases verdict with
  | skip => exact sound
  | accept lexeme => exact ⟨sound.tracks, sound.answered, sound.ordered, sound.reached⟩
  | reject misreading => exact sound

/-! ### Gaps -/

variable {gap rest blanks more : Text} {c : Char}

/-- A character in a gap that is not blank is a fault, with all that follows it up to the next blank. -/
theorem judge_of_not_blank {place : Place} (notBlank : Text.isBlank c = false) :
    judge (.gap place c) =
      .reject
        { fault := .unknownToken (place.rest.takeWhile (!Text.isBlank ·)), column := place.column } := by
  rw [judge, if_neg (Bool.eq_false_iff.mp notBlank)]

/-- A blank gap is passed over. -/
theorem checkGap?_of_blank (split : line = front ++ (gap ++ rest)) (cursor : sweep.cursor = front.utf8Length)
    (blank : ∀ d ∈ gap, Text.isBlank d = true) :
    sweep.checkGap? line (front ++ gap).utf8Length = some (sweep.obey .skip) := by
  have noOne : Text.firstByte? (!Text.isBlank ·) gap = none :=
    Text.firstByte?_eq_none fun d member => by simp [blank d member]
  subst split
  rw [checkGap?, cursor, Text.slice?_append]
  simp only [Option.bind_eq_bind, Option.bind_some, noOne]
  rfl

/-- The first character of a gap that is not blank ends the sweep, as it is judged. -/
theorem checkGap?_of_not_blank (sound : sweep.Sound line) (onward : sweep.tracker.byte ≤ front.utf8Length)
    (split : line = front ++ blanks ++ (c :: more ++ rest)) (cursor : sweep.cursor = front.utf8Length)
    (blank : ∀ d ∈ blanks, Text.isBlank d = true) (notBlank : Text.isBlank c = false) :
    sweep.checkGap? line (front ++ (blanks ++ c :: more)).utf8Length =
      some ((sweep.asked (front ++ blanks)).obey (judge (.gap (.behind line (front ++ blanks)) c))) := by
  have someone : Text.firstByte? (!Text.isBlank ·) (blanks ++ c :: more) = some blanks.utf8Length :=
    Text.firstByte?_append (fun d member => by simp [blank d member]) (by simp [notBlank]) more
  have place : front.utf8Length + blanks.utf8Length = (front ++ blanks).utf8Length :=
    (Text.utf8Length_append front blanks).symm
  have gap : line.slice? front.utf8Length (front ++ (blanks ++ c :: more)).utf8Length =
      some (blanks ++ c :: more) := by
    have cut := Text.slice?_append front (blanks ++ c :: more) rest
    rwa [List.append_assoc, ← List.append_assoc, ← split] at cut
  have column := columnAt?_eq sound ⟨_, split.symm⟩ (by omega)
  have judged : judge (.gap (.behind line (front ++ blanks)) c) =
      .reject
        { fault := .unknownToken ((c :: more ++ rest).takeWhile (!Text.isBlank ·))
          column := (front ++ blanks).length + 1 } := by
    rw [judge_of_not_blank notBlank, Place.rest_behind split, Place.column_behind]
  rw [checkGap?, cursor, judged]
  simp only [gap, someone, Option.bind_eq_bind, Option.bind_some, place]
  rw [split, Text.slice?_suffix]
  simp only [Option.bind_some]
  rw [Text.slice?_firstByte?, ← split, column]
  rfl

end Sweep

/-! ### Matches -/

namespace Grammar

/-- Rules with different names are found by their names. -/
theorem find?_name {grammar : Grammar} (distinct : (grammar.map Rule.name).Nodup) {rule : Rule}
    (member : rule ∈ grammar) : grammar.find? (·.name = rule.name) = some rule := by
  induction grammar with
  | nil => exact absurd member List.not_mem_nil
  | cons first later ih =>
      obtain ⟨fresh, distinctLater⟩ := List.nodup_cons.mp distinct
      rcases List.mem_cons.mp member with rfl | further
      · exact List.find?_cons_of_pos (decide_eq_true rfl)
      · have other : first.name ≠ rule.name := by
          intro same
          exact fresh (same ▸ List.mem_map_of_mem further)
        rw [List.find?_cons_of_neg (by simpa using other), ih distinctLater further]

theorem nodup_names_rules : (rules.map Rule.name).Nodup := by
  decide

/-- Only quotes between apostrophes are character literals. -/
theorem pattern_of_emit_char :
    ∀ rule ∈ rules, rule.action = .emit .char → rule.pattern = quotedPattern '\'' := by
  decide

end Grammar

namespace Sweep

variable {sweep : Sweep} {line front matched rest : Text} {rule : Rule}

/-- What stands between two apostrophes is cut out without them. -/
theorem slice?_enclosed (body : Text) :
    Text.slice? ('\'' :: (body ++ ['\''])) 1 (Text.utf8Length ('\'' :: (body ++ ['\''])) - 1) =
      some body := by
  refine Text.slice?_eq_some_iff.mpr ⟨['\''], ['\''], rfl, rfl, ?_⟩
  have width : Char.utf8Size '\'' = 1 := rfl
  rw [Text.utf8Length_cons, Text.utf8Length_append, Text.utf8Length_cons, Text.utf8Length_nil, width]
  omega

/-- The match of a rule that gives lexemes is taken in as it is judged. -/
theorem emit?_eq {category : Category} (sound : sweep.Sound line)
    (onward : sweep.tracker.byte ≤ front.utf8Length) (split : line = front ++ (matched ++ rest))
    (finds : Grammar.rules.firstMatch? (.behind line front) = some (rule, .behind line (front ++ matched)))
    (action : rule.action = .emit category) :
    sweep.emit? line category front.utf8Length (front ++ matched).utf8Length =
      some ((sweep.asked front).obey
        (judge (.hit rule (.behind line front) (.behind line (front ++ matched))))) := by
  obtain ⟨member, found⟩ := Grammar.mem_of_firstMatch? finds
  have splitPlace := Place.rest_behind split
  have cut : line.slice? front.utf8Length (front ++ matched).utf8Length = some matched := by
    rw [split]
    exact Text.slice?_append _ _ _
  have column := columnAt?_eq sound ⟨_, split.symm⟩ onward
  rw [emit?, cut]
  simp only [Option.bind_eq_bind, Option.bind_some, column]
  rw [← Place.past_behind]
  cases category with
  | unknown =>
      rw [judge, Place.textUntil_past splitPlace, action, Place.column_behind]
      rfl
  | char =>
      -- a character literal is a quote, so there is an inside to be cut out
      rw [Grammar.pattern_of_emit_char rule member action] at found
      obtain ⟨body, quoted, same⟩ := Grammar.quote_of_match? found
      have splitQuote : (Place.behind line front).rest = '\'' :: (body ++ ['\'']) ++
          (Place.behind line (front ++ matched)).rest := quoted.trans (by simp)
      obtain rfl : matched = '\'' :: (body ++ ['\'']) :=
        Place.past_injective splitPlace splitQuote ((Place.past_behind _ _ _).trans same)
      rw [judge_char action quoted, Place.column_behind]
      simp only [slice?_enclosed, Option.bind_some]
      split <;> rfl
  | _ =>
      rw [judge_plain action (by decide) splitPlace, Place.column_behind]
      rfl

end Sweep

end Lexical
