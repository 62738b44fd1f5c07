/-
Module: Lexical.Proofs.LineReading
Layer: Proofs
Purpose: The scanner reads a line as the token grammar says. Reading goes from place to place
  (`readFrom_hit`, `readFrom_gap`), a piece is read off as what it is (`readFrom_piece`), and behind it the
  place is fresh again, which is the invariant of the walk over a line. So the relation `Reads` and the
  function `readLine` agree, and a line is read without a fault exactly if it can be cut into pieces.
Imports: Lexical.Proofs.FirstMatch, Lexical.Proofs.Walk, Lexical.Scanner
Main exports: Reads.readFrom_eq, reads_readLine, Cut.reads, Reads.exists_cut, Cut.unique,
  Scanner.scanLine_accepts_iff_cut
-/

import Lexical.Proofs.FirstMatch
import Lexical.Proofs.Walk
import Lexical.Scanner

namespace Lexical

open Grammar

variable {place : Place} {c : Char} {rest : Text}

/-- The reading of a line from a place on. -/
def readFrom (place : Place) : Reading :=
  readSegments (segmentsFrom rules.firstMatch? place)

theorem readFrom_hit {rule : Rule} {passed : Text}
    (finds : firstMatch? rules place = some (rule, place.past passed))
    (split : place.rest = passed ++ rest) (nonempty : passed ≠ []) :
    readFrom place =
      (judge (.hit rule place (place.past passed))).prepend (readFrom (place.past passed)) := by
  rw [readFrom, segmentsFrom_hit finds split nonempty, readSegments_cons]
  rfl

theorem readFrom_gap (nothing : firstMatch? rules place = none) (split : place.rest = c :: rest) :
    readFrom place = (judge (.gap place c)).prepend (readFrom (place.past [c])) := by
  rw [readFrom, segmentsFrom_gap nothing split, readSegments_cons]
  rfl

/-! ### Blanks -/

/-- Before a blank and at the end of a line only the rule for blank texts is left. -/
theorem finds_of_blank (blank : place.rest.StopsRun (!Text.isBlank ·)) :
    firstMatch? rules place = (blankRule.pattern.match? place).map (blankRule, ·) := by
  have ends : place.rest.StopsRun Text.isWord := by
    apply blank.mono
    intro d word
    cases isBlank : Text.isBlank d with
    | false => rfl
    | true =>
        simp [Text.isWord_of_isBlank isBlank] at word
  obtain ⟨noKeyword, noIdentifier, noNumber⟩ := words_none_of_stopsRun ends
  have others : commentRule.pattern.match? place = none ∧ firstMatch? symbolRules place = none ∧
      stringRule.pattern.match? place = none ∧ charRule.pattern.match? place = none ∧
        unknownRule.pattern.match? place = none := by
    cases text : place.rest with
    | nil =>
        refine ⟨comment_none ?_, symbols_none fun entry member fits => ?_, quoted_none ?_,
          quoted_none ?_, Pattern.match?_many1_of_nil _ text⟩
        · simp [CommentAt, text]
        · have positive := (length_of_mem_symbolTable entry member).1
          rw [text, List.prefix_nil] at fits
          simp [fits] at positive
        · simp [text]
        · simp [text]
    | cons d rest =>
        rw [text] at blank
        have isBlank : Text.isBlank d = true := by simpa using Text.stopsRun_cons.mp blank
        have noSign : Text.isSign d = false := by simp [Text.isSign, isBlank]
        obtain ⟨noString, noChar⟩ :=
          quotes_none text ⟨Text.ne_of_isBlank isBlank rfl, Text.ne_of_isBlank isBlank rfl⟩
        exact ⟨comment_none (not_commentAt text (Text.ne_of_isBlank isBlank rfl)),
          symbols_none (no_symbol text (by simp [Text.isSymbolChar, noSign])), noString, noChar,
          unknown_none text noSign⟩
  obtain ⟨noComment, noSymbol, noString, noChar, noUnknown⟩ := others
  rw [firstMatch?_rules, noKeyword, noComment, noSymbol, noString, noChar, noIdentifier, noNumber,
    noUnknown]
  simp only [Option.map_none, Option.none_or, Option.or_none]

/-- At its end nothing of a line is left to read. -/
theorem readFrom_nil (atEnd : place.rest = []) :
    readFrom place = { lexemes := [], misreading? := none } := by
  have finds : firstMatch? rules place = _ :=
    finds_of_blank (by rw [atEnd]; exact Text.stopsRun_nil _)
  rw [readFrom]
  cases outcome : blankRule.pattern.match? place with
  | none =>
      rw [outcome] at finds
      rw [segmentsFrom_done atEnd finds, readSegments_nil]
  | some later =>
      rw [outcome] at finds
      rw [segmentsFrom_last atEnd finds]
      rfl

/-- What is found before a blank: all that is left, if this is a blank line, or nothing. -/
theorem finds_of_isBlank (split : place.rest = c :: rest) (blank : Text.isBlank c = true) :
    firstMatch? rules place =
      if place.offset = 0 ∧ (c :: rest).all Text.isBlank then
        some (blankRule, place.past (c :: rest))
      else none := by
  have stops : place.rest.StopsRun (!Text.isBlank ·) := Text.stopsRun_of_eq_cons split (by simp [blank])
  rw [finds_of_blank stops, blank_match?_eq split]
  split <;> rfl

/-- A blank rest of a line gives nothing. -/
theorem readFrom_of_blank (allBlank : ∀ d ∈ place.rest, Text.isBlank d = true) :
    readFrom place = { lexemes := [], misreading? := none } := by
  generalize text : place.rest = rest at allBlank
  induction rest generalizing place with
  | nil => exact readFrom_nil text
  | cons d rest ih =>
      have finds : firstMatch? rules place = _ :=
        finds_of_isBlank text (allBlank d List.mem_cons_self)
      have behind : (place.past [d]).rest = rest := Place.rest_past text
      split at finds
      · have whole : place.rest = (d :: rest) ++ [] := by rw [text, List.append_nil]
        rw [readFrom_hit finds whole (List.cons_ne_nil _ _)]
        exact readFrom_nil (Place.rest_past whole)
      · rw [readFrom_gap finds text, judge, if_pos (allBlank d List.mem_cons_self)]
        exact ih behind fun e inRest => allBlank e (List.mem_cons_of_mem _ inRest)

/-- A blank is passed over. -/
theorem readFrom_blank (split : place.rest = c :: rest) (blank : Text.isBlank c = true) :
    readFrom place = readFrom (place.past [c]) := by
  have finds : firstMatch? rules place = _ := finds_of_isBlank split blank
  have behind : (place.past [c]).rest = rest := Place.rest_past split
  split at finds
  case isTrue blankLine =>
    have allBlank := List.all_eq_true.mp blankLine.2
    rw [readFrom_of_blank (by rwa [split]), readFrom_of_blank]
    rw [behind]
    exact fun d inRest => allBlank d (List.mem_cons_of_mem _ inRest)
  case isFalse =>
    rw [readFrom_gap finds split, judge, if_pos blank]
    rfl

/-! ### Pieces -/

/-- The categories of fixed symbols are judged by nothing but their presence. -/
theorem plain_of_mem_symbolTable :
    ∀ entry ∈ symbolTable, entry.1 ≠ .unknown ∧ entry.1 ≠ .char := by
  decide

/-- A match in a category that is judged by nothing but its presence is a lexeme. -/
theorem judge_plain {rule : Rule} {category : Category} {passed : Text}
    (action : rule.action = .emit category) (plain : category ≠ .unknown ∧ category ≠ .char)
    (split : place.rest = passed ++ rest) :
    judge (.hit rule place (place.past passed)) =
      .accept { category, literal := passed, column := place.column } := by
  rw [judge, Place.textUntil_past split, action]
  cases category with
  | unknown => exact absurd rfl plain.1
  | char => exact absurd rfl plain.2
  | _ => rfl

/-- A match between apostrophes is judged by its length. -/
theorem judge_char {rule : Rule} {body : Text} (action : rule.action = .emit .char)
    (split : place.rest = '\'' :: (body ++ '\'' :: rest)) :
    judge (.hit rule place (place.past ('\'' :: (body ++ ['\''])))) =
      if body.length ≤ 1 then
        .accept { category := .char, literal := '\'' :: (body ++ ['\'']), column := place.column }
      else
        .reject
          { fault := .invalidCharLiteral ('\'' :: (body ++ ['\''])), column := place.column } := by
  have whole : place.rest = '\'' :: (body ++ ['\'']) ++ rest := by simp [split]
  have inner : enclosed ('\'' :: (body ++ ['\''])) = body := by
    rw [enclosed, List.tail_cons, List.dropLast_concat]
  rw [judge, Place.textUntil_past whole, action]
  simp only [inner]

/-- A match whose rule does what is due to the piece gives the lexemes of the piece. -/
theorem judge_piece {piece : Piece} {rule : Rule} (forced : Forced piece rest)
    (split : place.rest = piece.text ++ rest) (action : rule.action = piece.action)
    (later : Reading) :
    (judge (.hit rule place (place.past piece.text))).prepend later =
      { later with lexemes := piece.lexemes place.column ++ later.lexemes } := by
  cases forced with
  | blank | lineComment | blockComment =>
      rw [judge, action]
      rfl
  | string | whole | fraction =>
      rw [judge_plain action (by decide) split]
      rfl
  | @char body _ oneLine first short =>
      have splitChar : place.rest = '\'' :: (body ++ '\'' :: rest) := by
        rw [split]
        simp [Piece.text]
      have judged := judge_char action splitChar
      rw [if_pos short] at judged
      rw [Piece.text, judged]
      rfl
  | symbol member =>
      rw [judge_plain action (plain_of_mem_symbolTable _ member) split]
      rfl
  | @word first run _ =>
      have plain : wordCategory (first :: run) ≠ .unknown ∧ wordCategory (first :: run) ≠ .char := by
        rw [wordCategory]
        split <;> decide
      rw [judge_plain action plain split]
      rfl

/-- A piece is read as what it is, and the reading goes on behind it. -/
theorem readFrom_piece {piece : Piece} (forced : Forced piece rest) (fresh : place.Fresh)
    (split : place.rest = piece.text ++ rest) :
    readFrom place =
      { readFrom (place.past piece.text) with
        lexemes := piece.lexemes place.column ++ (readFrom (place.past piece.text)).lexemes } := by
  by_cases someBlank : ∃ d, piece = .blank d
  · obtain ⟨d, rfl⟩ := someBlank
    cases forced with
    | blank blank => exact readFrom_blank split blank
  · obtain ⟨rule, action, finds⟩ := forced.finds fresh split fun d same => someBlank ⟨d, same⟩
    rw [readFrom_hit finds split forced.text_ne_nil, judge_piece forced split action]

/-- Behind a character that is no word character a place is fresh. -/
theorem Place.fresh_past_concat {passed : Text} (notWord : Text.isWord c = false) :
    (place.past (passed ++ [c])).Fresh := fun _ => by
  rw [Place.wordBefore_past_concat, notWord]

/-- Behind a piece the place is fresh. -/
theorem Forced.fresh_past {piece : Piece} (forced : Forced piece rest)
    (split : place.rest = piece.text ++ rest) : (place.past piece.text).Fresh := by
  have behind : (place.past piece.text).rest = rest := Place.rest_past split
  cases forced with
  | @blank d _ blank =>
      change (place.past ([] ++ [d])).Fresh
      exact Place.fresh_past_concat (Text.isWord_of_isBlank blank)
  | lineComment =>
      apply Place.fresh_of_stopsRun
      rw [behind]
      exact Text.stopsRun_nil _
  | @blockComment body =>
      have whole : '/' :: '*' :: (body ++ ['*', '/']) = '/' :: '*' :: (body ++ ['*']) ++ ['/'] := by
        simp
      rw [Piece.text, whole]
      exact Place.fresh_past_concat (by decide)
  | @string body =>
      change (place.past ('"' :: body ++ ['"'])).Fresh
      exact Place.fresh_past_concat (by decide)
  | @char body =>
      change (place.past ('\'' :: body ++ ['\''])).Fresh
      exact Place.fresh_past_concat (by decide)
  | @symbol category symbol _ member longest noComment =>
      have nonempty : symbol ≠ [] := (Forced.symbol member longest noComment).text_ne_nil
      have symbolChar := symbolChars_of_mem_symbolTable _ member _ (List.getLast_mem nonempty)
      simp only [Text.isSymbolChar, Bool.and_eq_true, Bool.not_eq_true'] at symbolChar
      rw [Piece.text, ← List.dropLast_concat_getLast nonempty]
      exact Place.fresh_past_concat symbolChar.1.1.2
  | word begins continues ends => exact Place.fresh_of_stopsRun (by rwa [behind])
  | whole nonempty all ends => exact Place.fresh_of_stopsRun (by rwa [behind])
  | fraction nonempty all nonemptyDecimals allDecimals ends =>
      exact Place.fresh_of_stopsRun (by rwa [behind])

/-! ### Faults -/

/-- Where no piece can be cut off, the reading ends with the fault. -/
theorem readFrom_stuck {fault : Fault} (stuck : Stuck place.rest fault) (fresh : place.Fresh) :
    readFrom place = { lexemes := [], misreading? := some { fault, column := place.column } } := by
  generalize text : place.rest = whole at stuck
  cases fault with
  | invalidCharLiteral literal =>
      cases stuck with
      | @longChar body rest oneLine first long =>
          have finds := finds_char text oneLine first
          have splitWhole : place.rest = '\'' :: (body ++ ['\'']) ++ rest := by simp [text]
          rw [readFrom_hit finds splitWhole (List.cons_ne_nil _ _), judge_char rfl text,
            if_neg (by omega)]
          rfl
  | unknownToken literal =>
      obtain ⟨c, rest, wholeEq⟩ := List.exists_cons_of_ne_nil stuck.text_ne_nil
      subst wholeEq
      obtain ⟨finds, rfl, notBlank⟩ := stuck.finds_unknown fresh text
      by_cases sign : Text.isSign c = true
      · rw [unknown_some text sign, ← faultyRun_of_isSign sign] at finds
        have splitRun : place.rest = faultyRun (c :: rest) ++ (c :: rest).dropWhile Text.isSign := by
          rw [faultyRun_of_isSign sign, List.takeWhile_append_dropWhile, text]
        have nonempty : faultyRun (c :: rest) ≠ [] := by
          rw [faultyRun_of_isSign sign, List.takeWhile_cons_of_pos sign]
          exact List.cons_ne_nil _ _
        rw [readFrom_hit finds splitRun nonempty, judge, Place.textUntil_past splitRun]
        rfl
      · rw [Bool.not_eq_true] at sign
        rw [unknown_none text sign] at finds
        rw [readFrom_gap finds text, judge, notBlank, text, faultyRun_of_not_isSign sign]
        rfl

/-- The decimal point of a broken fraction is a fault. -/
theorem stuck_point {digit : Char} (isDigit : digit.isDigit = true) :
    Stuck ('.' :: digit :: rest) (.unknownToken ['.']) := by
  have notSign : Text.isSign digit = false := by simp [Text.isSign, Char.isAlphanum, isDigit]
  have noPoint : symbolTable.all (fun entry => entry.2.head? != some '.') = true := by decide
  have faulty : faultyRun ('.' :: digit :: rest) = ['.'] := by
    rw [faultyRun_of_isSign (by decide), List.takeWhile_cons_of_pos (by decide),
      List.takeWhile_cons_of_neg (by simp [notSign])]
  rw [← faulty]
  refine .sign (by decide) (by decide) (by decide) fun entry member fits => ?_
  obtain ⟨after, whole⟩ := fits
  cases symbol : entry.2 with
  | nil => exact absurd (length_of_mem_symbolTable entry member).1 (by simp [symbol])
  | cons d more =>
      rw [symbol] at whole
      have other := List.all_eq_true.mp noPoint entry member
      rw [symbol, List.head?_cons, (List.cons.inj whole).1, bne_self_eq_false] at other
      exact Bool.false_ne_true other

/-! ### The reading of a line -/

/-- What the grammar says of a text is what is read at every fresh place before it. -/
theorem Reads.readFrom_eq {column : Nat} {text : Text} {reading : Reading}
    (reads : Reads column text reading) (fresh : place.Fresh) (split : place.rest = text)
    (atColumn : place.column = column) : readFrom place = reading := by
  induction reads generalizing place with
  | done => exact readFrom_nil split
  | @piece column piece rest later forced onward ih =>
      have behind : readFrom (place.past piece.text) = later := by
        apply ih (forced.fresh_past split) (Place.rest_past split)
        rw [Place.column_past, atColumn]
      rw [readFrom_piece forced fresh split, behind, atColumn]
  | stuck stuck =>
      rw [← split] at stuck
      rw [readFrom_stuck stuck fresh, atColumn]
  | @brokenFraction column c digits decimals rest nonempty all nonemptyDecimals allDecimals wordAfter
      noDigit =>
      have finds := finds_brokenFraction fresh split nonempty all nonemptyDecimals allDecimals wordAfter
        noDigit
      have behind : (place.past digits).rest = '.' :: (decimals ++ c :: rest) := Place.rest_past split
      obtain ⟨first, more, rfl⟩ := List.exists_cons_of_ne_nil nonemptyDecimals
      have stuck : Stuck ('.' :: first :: (more ++ c :: rest)) (.unknownToken ['.']) :=
        stuck_point (allDecimals first List.mem_cons_self)
      rw [← List.cons_append, ← behind] at stuck
      have freshBehind : (place.past digits).Fresh := by
        exact Place.fresh_of_stopsRun (Text.stopsRun_of_eq_cons behind rfl)
      rw [readFrom_hit finds split nonempty, judge_plain rfl (by decide) split,
        readFrom_stuck stuck freshBehind, Place.column_past, atColumn]
      rfl

/-- A line has one reading only, and it is the one that the scanner makes. -/
theorem Reads.eq_readLine {line : Text} {reading : Reading} (reads : Reads 1 line reading) :
    readLine line = reading :=
  reads.readFrom_eq (Place.fresh_start line) rfl rfl

/-- The scanner reads every line as the grammar says. -/
theorem reads_readLine (line : Text) : Reads 1 line (readLine line) := by
  obtain ⟨reading, reads⟩ := exists_reads line 1
  rwa [reads.eq_readLine]

/-! ### Lines without a fault -/

/-- The lexemes of pieces that follow one another from a column on. -/
def lexemesFrom : Nat → List Piece → List Lexeme
  | _, [] => []
  | column, piece :: pieces =>
      piece.lexemes column ++ lexemesFrom (column + piece.text.length) pieces

/-- Without their columns, the lexemes are the pieces that are neither blanks nor comments. -/
theorem map_lexemesFrom (column : Nat) (pieces : List Piece) :
    (lexemesFrom column pieces).map (fun lexeme => (lexeme.category, lexeme.literal)) =
      pieces.filterMap Piece.token? := by
  induction pieces generalizing column with
  | nil => rfl
  | cons piece pieces ih =>
      rw [lexemesFrom, List.map_append, ih]
      cases piece <;> rfl

/-- A line that is cut into pieces is read to its end. -/
theorem Cut.reads {text : Text} {pieces : List Piece} (cut : Cut text pieces) (column : Nat) :
    Reads column text { lexemes := lexemesFrom column pieces, misreading? := none } := by
  induction cut generalizing column with
  | nil => exact .done
  | cons forced onward ih => exact .piece forced (ih _)

/-- A line that is read to its end is cut into pieces. -/
theorem Reads.exists_cut {column : Nat} {text : Text} {reading : Reading}
    (reads : Reads column text reading) (noFault : reading.misreading? = none) :
    ∃ pieces, Cut text pieces ∧ reading.lexemes = lexemesFrom column pieces := by
  induction reads with
  | done => exact ⟨[], .nil, rfl⟩
  | @piece column piece rest later forced onward ih =>
      obtain ⟨pieces, cut, lexemes⟩ := ih noFault
      exact ⟨piece :: pieces, .cons forced cut, congrArg (piece.lexemes column ++ ·) lexemes⟩
  | stuck => exact absurd noFault (by simp)
  | brokenFraction => exact absurd noFault (by simp)

/-- A line is read without a fault exactly if it is cut into pieces. -/
theorem misreading?_eq_none_iff (line : Text) :
    (readLine line).misreading? = none ↔ ∃ pieces, Cut line pieces := by
  constructor
  · intro noFault
    obtain ⟨pieces, cut, _⟩ := (reads_readLine line).exists_cut noFault
    exact ⟨pieces, cut⟩
  · rintro ⟨pieces, cut⟩
    rw [(cut.reads 1).eq_readLine]

/-! ### There is one way to cut a line -/

/-- A piece that is no blank does not begin with one. -/
theorem Forced.head_not_blank {piece : Piece} (forced : Forced piece rest)
    (notBlank : ∀ d, piece ≠ .blank d) : ∀ d ∈ piece.text.head?, Text.isBlank d = false := by
  cases forced with
  | @blank d => exact absurd rfl (notBlank d)
  | lineComment | blockComment | string | char =>
      rintro d atHead
      obtain rfl := Option.some.inj atHead
      decide
  | @symbol category symbol _ member =>
      intro d atHead
      have symbolChar := symbolChars_of_mem_symbolTable _ member d (List.mem_of_mem_head? atHead)
      simp only [Text.isSymbolChar, Bool.and_eq_true] at symbolChar
      exact Text.isBlank_of_isSign symbolChar.1.1.1
  | word begins =>
      rintro d atHead
      obtain rfl := Option.some.inj atHead
      exact Text.isBlank_of_continuesWord (Text.continuesWord_of_beginsWord begins)
  | whole nonempty all =>
      intro d atHead
      exact Text.isBlank_of_continuesWord
        (Text.continuesWord_of_isDigit (all d (List.mem_of_mem_head? atHead)))
  | @fraction digits _ _ nonempty all =>
      intro d atHead
      obtain ⟨first, more, rfl⟩ := List.exists_cons_of_ne_nil nonempty
      obtain rfl := Option.some.inj atHead
      exact Text.isBlank_of_continuesWord
        (Text.continuesWord_of_isDigit (all _ List.mem_cons_self))

/-- Before a blank the blank is the piece. -/
theorem Forced.eq_blank {piece : Piece} {later : Text} (forced : Forced piece rest)
    (split : piece.text ++ rest = c :: later) (blank : Text.isBlank c = true) : piece = .blank c := by
  by_cases someBlank : ∃ d, piece = .blank d
  · obtain ⟨d, rfl⟩ := someBlank
    rw [(List.cons.inj split).1]
  · obtain ⟨d, more, text⟩ := List.exists_cons_of_ne_nil forced.text_ne_nil
    have notBlank := forced.head_not_blank (fun e same => someBlank ⟨e, same⟩) d (by rw [text]; rfl)
    rw [text, List.cons_append] at split
    simp [(List.cons.inj split).1, blank] at notBlank

/-- What is done with a piece and its text tell which piece it is, unless it is a blank. -/
theorem Piece.eq_of_action {piece other : Piece} (notBlank : ∀ c, piece ≠ .blank c)
    (notBlankOther : ∀ c, other ≠ .blank c) (action : piece.action = other.action)
    (text : piece.text = other.text) : piece = other := by
  cases piece with
  | blank c => exact absurd rfl (notBlank c)
  | comment first =>
      cases other with
      | blank c => exact absurd rfl (notBlankOther c)
      | comment second => exact congrArg Piece.comment text
      | lexeme category literal => exact absurd action (by simp [Piece.action])
  | lexeme category literal =>
      cases other with
      | blank c => exact absurd rfl (notBlankOther c)
      | comment second => exact absurd action (by simp [Piece.action])
      | lexeme otherCategory otherLiteral =>
          obtain rfl : category = otherCategory := by simpa [Piece.action] using action
          exact congrArg (Piece.lexeme category) text

/-- What stands at the start of a text forces the piece: the scanner finds only one. -/
theorem Forced.unique {piece other : Piece} {later : Text} (forced : Forced piece rest)
    (forcedOther : Forced other later) (same : piece.text ++ rest = other.text ++ later) :
    piece = other := by
  by_cases someBlank : ∃ d, piece = .blank d
  · obtain ⟨d, rfl⟩ := someBlank
    cases forced with
    | blank blank => exact (forcedOther.eq_blank same.symm blank).symm
  by_cases otherBlank : ∃ d, other = .blank d
  · obtain ⟨d, rfl⟩ := otherBlank
    cases forcedOther with
    | blank blank => exact forced.eq_blank same blank
  · have notBlank : ∀ d, piece ≠ .blank d := fun d equal => someBlank ⟨d, equal⟩
    have notBlankOther : ∀ d, other ≠ .blank d := fun d equal => otherBlank ⟨d, equal⟩
    have fresh := Place.fresh_start (piece.text ++ rest)
    obtain ⟨rule, action, finds⟩ := forced.finds fresh rfl notBlank
    obtain ⟨ruleOther, actionOther, findsOther⟩ := forcedOther.finds fresh same notBlankOther
    obtain ⟨sameRule, samePlace⟩ := Prod.mk.inj (Option.some.inj (finds.symm.trans findsOther))
    refine Piece.eq_of_action notBlank notBlankOther ?_ (Place.past_injective rfl same samePlace)
    rw [← action, ← actionOther, sameRule]

/-- A line is cut into pieces in one way only. -/
theorem Cut.unique {text : Text} {pieces others : List Piece} (cut : Cut text pieces)
    (cutOther : Cut text others) : pieces = others := by
  induction cut generalizing others with
  | nil =>
      generalize empty : ([] : Text) = text at cutOther
      cases cutOther with
      | nil => rfl
      | cons forced onward => simp [forced.text_ne_nil] at empty
  | @cons piece rest pieces forced onward ih =>
      generalize whole : piece.text ++ rest = text at cutOther
      cases cutOther with
      | nil => simp [forced.text_ne_nil] at whole
      | cons forcedOther onwardOther =>
          obtain rfl := forced.unique forcedOther whole
          rw [List.append_cancel_left_eq] at whole
          rw [whole] at ih
          rw [ih onwardOther]

/-! ### The line scanner -/

/-- The line scanner accepts exactly the lines that the token grammar cuts into pieces, and what it adds to
the table are the pieces that are neither blanks nor comments, in their order. A line feed in the line is
a blank that no comment and no quote runs over. -/
theorem Scanner.scanLine_accepts_iff_cut (scanner : Scanner) (line : Text) :
    ((scanner.scanLine line).error? = none ↔ ∃ pieces, Cut line pieces) ∧
      ∀ pieces, Cut line pieces →
        (scanner.scanLine line).scanner.table.tokens =
            scanner.table.tokens ++ (scanner.scanLine line).added ∧
          (scanner.scanLine line).added.map (fun token => (token.category, token.literal)) =
            pieces.filterMap Piece.token? := by
  refine ⟨?_, fun pieces cut => ⟨Table.tokens_append _ _, ?_⟩⟩
  · rw [← misreading?_eq_none_iff]
    exact Option.map_eq_none_iff
  · rw [Scanner.scanLine, (cut.reads 1).eq_readLine, ← map_lexemesFrom 1 pieces, List.map_map]
    rfl

end Lexical
