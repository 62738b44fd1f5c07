/-
Module: Lexical.Proofs.BlankTails
Layer: Proofs
Purpose: What a piece asks of the text behind it. Apart from comments, it is only what comes before the next
  blank: a text that goes like another one up to its own first blank (`Text.OpensLike`) forces the same
  pieces. So a tail that opens blank changes nothing about a fault before it (`Stuck.append_tail`), and every
  lexeme is a piece by itself (`Reads.forced_alone`). Blanks at the end of a line make no difference, and the
  lines of a source can be taken as the stretches between its line feeds, carriage returns included.
Imports: Lexical.Proofs.Lines, Lexical.Proofs.SourceReading
Main exports: Text.OpensLike, Forced.of_opensLike, Forced.before_blank, Stuck.append_tail,
  Reads.forced_alone, Text.IsMargin, Reads.append_blanks, readLine_append_blanks, readings,
  tokenize_eq_ok_iff_readings, tokenize_eq_error_iff_readings
-/

import Lexical.Proofs.Lines
import Lexical.Proofs.SourceReading

namespace Lexical

namespace Text

/-- Up to its own first blank the other text stands at the start of the text. -/
def OpensLike (other text : Text) : Prop :=
  other.takeWhile (!isBlank ·) <+: text

/-- Accepted characters at the start of a text belong to its first run. -/
theorem stands_takeWhile {holds : Char → Bool} {words text : Text} (stands : words <+: text)
    (all : ∀ c ∈ words, holds c = true) : words <+: text.takeWhile holds := by
  obtain ⟨after, rfl⟩ := stands
  rw [List.takeWhile_append_of_pos all]
  exact List.prefix_append _ _

theorem opensLike_refl (text : Text) : text.OpensLike text :=
  List.takeWhile_prefix _

theorem opensLike_nil (text : Text) : OpensLike [] text :=
  List.nil_prefix

/-- A text that begins with a blank opens like any other. -/
theorem opensLike_of_blank {c : Char} (other text : Text) (blank : isBlank c = true) :
    OpensLike (c :: other) text := by
  rw [OpensLike, List.takeWhile_cons_of_neg (by simp [blank])]
  exact List.nil_prefix

/-- Nothing that begins with a character that is no blank begins among blanks. -/
theorem infix_of_blanks_append {c : Char} {mark blanks text : Text} (full : isBlank c = false)
    (blank : ∀ d ∈ blanks, isBlank d = true) (stands : c :: mark <:+: blanks ++ text) :
    c :: mark <:+: text := by
  induction blanks with
  | nil => exact stands
  | cons d blanks ih =>
      obtain ⟨here, further⟩ := List.forall_mem_cons.mp blank
      rcases List.infix_cons_iff.mp stands with opens | later
      · rw [(List.cons_prefix_cons.mp opens).1, here] at full
        exact absurd full.symm Bool.false_ne_true
      · exact ih further later

namespace OpensLike

variable {other text : Text}

/-- Behind the same front, texts open alike. -/
theorem append (front : Text) (like : other.OpensLike text) :
    OpensLike (front ++ other) (front ++ text) := by
  induction front with
  | nil => exact like
  | cons c front ih =>
      by_cases blank : isBlank c = true
      · exact opensLike_of_blank _ _ blank
      · rw [OpensLike, List.cons_append, List.takeWhile_cons_of_pos (by simp [blank])]
        exact (List.prefix_cons_inj c).mpr ih

/-- What stands at the start of the other text, and holds no blank, stands at the start of the text. -/
theorem stands_of_full {words : Text} (like : other.OpensLike text) (stands : words <+: other)
    (full : ∀ c ∈ words, isBlank c = false) : words <+: text :=
  (stands_takeWhile stands fun c member => by simp [full c member]).trans like

/-- Where the text stops a run of characters that are not blank, so does the other text. -/
theorem stopsRun {holds : Char → Bool} (like : other.OpensLike text) (stops : text.StopsRun holds)
    (full : ∀ c, holds c = true → isBlank c = false) : other.StopsRun holds := by
  intro c atHead
  apply Bool.eq_false_iff.mpr
  intro held
  obtain ⟨later, rfl⟩ := List.head?_eq_some_iff.mp atHead
  have stands : [c] <+: text := like.stands_of_full ⟨later, rfl⟩ (by simpa using full c held)
  obtain ⟨after, rfl⟩ := stands
  simp [stops c rfl] at held

/-- A first run of characters that are not blank can only be longer in the text. -/
theorem takeWhile_stands {holds : Char → Bool} (like : other.OpensLike text)
    (full : ∀ c, holds c = true → isBlank c = false) :
    other.takeWhile holds <+: text.takeWhile holds := by
  have all : ∀ c ∈ other.takeWhile holds, holds c = true := List.all_eq_true.mp List.all_takeWhile
  refine stands_takeWhile (like.stands_of_full (List.takeWhile_prefix _) fun c member => ?_) all
  exact full c (all c member)

theorem fractionAt (like : other.OpensLike text) (fraction : FractionAt other) : FractionAt text := by
  obtain ⟨digit, rest, rfl, isDigit⟩ := fraction
  have full : ∀ c ∈ ['.', digit], isBlank c = false := by
    have notBlank := isBlank_of_continuesWord (continuesWord_of_isDigit isDigit)
    simp only [List.mem_cons, List.not_mem_nil, or_false]
    rintro c (rfl | rfl)
    · decide
    · exact notBlank
  obtain ⟨after, rfl⟩ := like.stands_of_full ⟨rest, rfl⟩ full
  exact ⟨digit, after, rfl, isDigit⟩

/-- A symbol that fits at the start of the other text fits at the start of the text. -/
theorem symbol_fits {entry : Category × Text} (like : other.OpensLike text)
    (member : entry ∈ symbolTable) (fits : entry.2 <+: other) : entry.2 <+: text := by
  apply like.stands_of_full fits
  intro c inSymbol
  have symbolChar := symbolChars_of_mem_symbolTable entry member c inSymbol
  simp only [isSymbolChar, Bool.and_eq_true] at symbolChar
  exact isBlank_of_isSign symbolChar.1.1.1

/-- The characters that are reported of a text can only be more. -/
theorem faultyRun_stands {c : Char} (like : other.OpensLike text) :
    faultyRun (c :: other) <+: faultyRun (c :: text) := by
  have likeBehind := like.append [c]
  by_cases sign : isSign c = true
  · rw [faultyRun_of_isSign sign, faultyRun_of_isSign sign]
    exact likeBehind.takeWhile_stands fun _ => isBlank_of_isSign
  · rw [Bool.not_eq_true] at sign
    rw [faultyRun_of_not_isSign sign, faultyRun_of_not_isSign sign]
    exact likeBehind.takeWhile_stands fun d full => by simpa using full

end OpensLike

end Text

/-- Of the fixed symbols only the slash begins with one. -/
theorem slash_of_head_symbolTable :
    ∀ entry ∈ symbolTable, entry.2.head? = some '/' → entry.2 = ['/'] := by
  have all : symbolTable.all (fun entry => entry.2.head? != some '/' || entry.2 == ['/']) = true := by
    decide
  intro entry member opens
  simpa [opens] using List.all_eq_true.mp all entry member

/-- A piece is also forced by a text that opens like the one that forces it, if the two agree on comments
and the piece is no comment up to the end of the line. -/
theorem Forced.of_opensLike {piece : Piece} {rest other : Text} (forced : Forced piece rest)
    (like : other.OpensLike rest) (noLine : ∀ body, piece ≠ .comment ('/' :: '/' :: body))
    (comment : CommentAt (piece.text ++ other) → CommentAt (piece.text ++ rest)) :
    Forced piece other := by
  cases forced with
  | blank blank => exact .blank blank
  | @lineComment body => exact absurd rfl (noLine body)
  | blockComment oneLine first => exact .blockComment oneLine first
  | string oneLine first => exact .string oneLine first
  | char oneLine first short => exact .char oneLine first short
  | @symbol category symbol _ member longest noComment =>
      refine .symbol member (fun entry inTable fits => ?_) fun fits => noComment (comment fits)
      exact longest entry inTable ((like.append symbol).symbol_fits inTable fits)
  | word begins continues ends =>
      exact .word begins continues (like.stopsRun ends fun _ => Text.isBlank_of_isWord)
  | whole nonempty all ends noFraction =>
      refine .whole nonempty all (like.stopsRun ends fun _ => Text.isBlank_of_isWord) ?_
      exact fun fraction => noFraction (like.fractionAt fraction)
  | fraction nonempty all nonemptyDecimals allDecimals ends =>
      exact .fraction nonempty all nonemptyDecimals allDecimals
        (like.stopsRun ends fun _ => Text.isBlank_of_isWord)

/-- Of the pieces that are no comments, only the slash begins with one. -/
theorem Forced.head_ne_slash {piece : Piece} {rest : Text} (forced : Forced piece rest)
    (notComment : ∀ text, piece ≠ .comment text) (notSlash : piece.text ≠ ['/']) :
    ∀ c ∈ piece.text.head?, c ≠ '/' := by
  cases forced with
  | blank blank =>
      rintro c ⟨⟩
      exact Text.ne_of_isBlank blank rfl
  | lineComment => exact absurd rfl (notComment _)
  | blockComment => exact absurd rfl (notComment _)
  | string =>
      rintro c ⟨⟩
      decide
  | char =>
      rintro c ⟨⟩
      decide
  | @symbol category symbol _ member =>
      rintro c atHead rfl
      exact notSlash (slash_of_head_symbolTable _ member atHead)
  | word begins =>
      rintro c ⟨⟩
      have word := Text.isWord_of_continuesWord (Text.continuesWord_of_beginsWord begins)
      exact Text.ne_of_isWord word rfl
  | whole nonempty all =>
      intro c atHead
      exact Text.ne_of_isWord (Text.isWord_of_isDigit (all c (List.mem_of_mem_head? atHead))) rfl
  | @fraction digits _ _ nonempty all =>
      intro c atHead
      obtain ⟨first, more, rfl⟩ := List.exists_cons_of_ne_nil nonempty
      obtain rfl := Option.some.inj atHead
      exact Text.ne_of_isWord (Text.isWord_of_isDigit (all _ List.mem_cons_self)) rfl

/-- Of the pieces that are no comments, only a slash can become one by what follows it. -/
theorem Forced.of_opensLike_of_slash {piece : Piece} {rest other : Text} (forced : Forced piece rest)
    (like : other.OpensLike rest) (notComment : ∀ text, piece ≠ .comment text)
    (slash : CommentAt ('/' :: other) → CommentAt ('/' :: rest)) : Forced piece other := by
  apply forced.of_opensLike like fun body => notComment _
  intro fits
  by_cases isSlash : piece.text = ['/']
  · rw [isSlash] at fits ⊢
    exact slash fits
  · obtain ⟨c, more, text⟩ := List.exists_cons_of_ne_nil forced.text_ne_nil
    have other := forced.head_ne_slash notComment isSlash c (by rw [text]; rfl)
    rw [text] at fits
    rcases fits with ⟨_, split, _⟩ | ⟨_, _, split, _⟩
    · exact absurd (List.cons.inj split).1 other
    · exact absurd (List.cons.inj split).1 other

/-- Blanks at the front of a text give nothing. -/
theorem Reads.blanks_append {column : Nat} {blanks text : Text} {reading : Reading}
    (blank : ∀ c ∈ blanks, Text.isBlank c = true)
    (reads : Reads (column + blanks.length) text reading) :
    Reads column (blanks ++ text) reading := by
  induction blanks generalizing column with
  | nil => exact reads
  | cons c blanks ih =>
      obtain ⟨here, later⟩ := List.forall_mem_cons.mp blank
      rw [List.length_cons, Nat.add_comm blanks.length, ← Nat.add_assoc] at reads
      exact .piece (.blank here) (ih later reads)

/-- At the end of a line there is only one reading. -/
theorem Reads.eq_of_nil {column : Nat} {reading : Reading} (reads : Reads column [] reading) :
    reading = { lexemes := [], misreading? := none } := by
  generalize empty : ([] : Text) = text at reads
  cases reads with
  | done => rfl
  | piece forced onward => simp [forced.text_ne_nil] at empty
  | stuck stuck => exact absurd empty.symm stuck.text_ne_nil
  | brokenFraction => simp at empty

/-! ### Margins -/

namespace Text

/-- Blanks that can stand at either end of a line. -/
def IsMargin (text : Text) : Prop :=
  ∀ c ∈ text, isBlank c = true ∧ c ≠ '\n'

namespace IsMargin

variable {margin : Text}

theorem blank (isMargin : margin.IsMargin) : ∀ c ∈ margin, isBlank c = true :=
  fun c member => (isMargin c member).1

theorem oneLine (isMargin : margin.IsMargin) : '\n' ∉ margin :=
  fun member => (isMargin _ member).2 rfl

theorem nil : IsMargin [] :=
  List.forall_mem_nil _

theorem spaces (count : Nat) : IsMargin (List.replicate count ' ') := by
  intro c member
  rw [List.eq_of_mem_replicate member]
  decide

end IsMargin

end Text

/-! ### Tails that open blank -/

section Tails

variable {tail : Text} (opens : tail.StopsRun (!Text.isBlank ·))

include opens

namespace Text

/-- A text that is empty or begins with a blank opens like any other. -/
theorem opensLike_of_stopsRun (text : Text) : tail.OpensLike text := by
  cases tail with
  | nil => exact opensLike_nil text
  | cons c later => exact opensLike_of_blank later text (by simpa [stopsRun_cons] using opens)

theorem opensLike_append_tail (text : Text) : OpensLike (text ++ tail) text := by
  have behind := OpensLike.append text (opensLike_of_stopsRun opens [])
  rwa [List.append_nil] at behind

theorem takeWhile_append_tail {holds : Char → Bool} (full : ∀ c, holds c = true → isBlank c = false)
    (text : Text) : (text ++ tail).takeWhile holds = text.takeWhile holds := by
  induction text with
  | nil =>
      have stops : tail.StopsRun holds := opens.mono fun c held => by simp [full c held]
      exact takeWhile_run (List.forall_mem_nil _) stops
  | cons c text ih =>
      rw [List.cons_append, List.takeWhile_cons, List.takeWhile_cons, ih]

theorem faultyRun_append_tail (c : Char) (text : Text) :
    faultyRun (c :: text ++ tail) = faultyRun (c :: text) := by
  rw [List.cons_append]
  by_cases sign : isSign c = true
  · rw [faultyRun_of_isSign sign, faultyRun_of_isSign sign, ← List.cons_append]
    exact takeWhile_append_tail opens (fun _ => isBlank_of_isSign) _
  · rw [Bool.not_eq_true] at sign
    rw [faultyRun_of_not_isSign sign, faultyRun_of_not_isSign sign, ← List.cons_append]
    exact takeWhile_append_tail opens (fun d full => by simpa using full) _

end Text

/-- A piece that is no comment is forced wherever a blank or nothing follows it. -/
theorem Forced.before_blank {piece : Piece} {rest : Text} (forced : Forced piece rest)
    (notComment : ∀ text, piece ≠ .comment text) : Forced piece tail := by
  refine forced.of_opensLike_of_slash (Text.opensLike_of_stopsRun opens rest) notComment fun fits => ?_
  rcases fits with ⟨body, split, -⟩ | ⟨body, later, split, -⟩
  · have slash := opens '/' (by rw [(List.cons.inj split).2]; rfl)
    exact absurd slash (by decide)
  · have star := opens '*' (by rw [(List.cons.inj split).2]; rfl)
    exact absurd star (by decide)

/-- A fault stays the same fault, if the tail closes no quote on the line of the fault. -/
theorem Stuck.append_tail {text : Text} {fault : Fault} (stuck : Stuck text fault)
    (closesNone : ∀ mark, mark = '"' ∨ mark = '\'' →
      ∀ body later, tail = body ++ mark :: later → '\n' ∈ body) :
    Stuck (text ++ tail) fault := by
  cases stuck with
  | @longChar body rest oneLine first long =>
      have grown : Stuck ('\'' :: (body ++ '\'' :: (rest ++ tail))) _ := .longChar oneLine first long
      simpa using grown
  | @openQuote mark rest quote unclosed =>
      rw [← Text.faultyRun_append_tail opens]
      refine .openQuote quote fun body later split => ?_
      rcases List.append_eq_append_iff.mp split with ⟨more, rfl, inTail⟩ | ⟨more, inRest, behind⟩
      · exact List.mem_append_right _ (closesNone mark quote more later inTail)
      · cases more with
        | nil => exact absurd (closesNone mark quote [] later behind.symm) List.not_mem_nil
        | cons d more =>
            obtain ⟨rfl, -⟩ := List.cons.inj behind
            exact unclosed body more inRest
  | @sign c rest sign noQuote noWord noSymbol =>
      rw [← Text.faultyRun_append_tail opens]
      refine .sign sign noQuote noWord fun entry member fits => noSymbol entry member ?_
      exact (Text.opensLike_append_tail opens (c :: rest)).symbol_fits member fits
  | @brokenWord first c run rest begins continues wordAfter foreign =>
      rw [← Text.faultyRun_append_tail opens, List.cons_append, List.append_assoc, List.cons_append]
      exact .brokenWord begins continues wordAfter foreign
  | @brokenNumber c digits rest nonempty all wordAfter noDigit =>
      obtain ⟨first, more, rfl⟩ := List.exists_cons_of_ne_nil nonempty
      rw [List.cons_append, ← Text.faultyRun_append_tail opens, ← List.cons_append, List.append_assoc]
      exact .brokenNumber nonempty all wordAfter noDigit

end Tails

/-- Every lexeme of a reading is a piece by itself, also where the reading does not come to the end of the
line. -/
theorem Reads.forced_alone {column : Nat} {text : Text} {reading : Reading}
    (reads : Reads column text reading) :
    ∀ lexeme ∈ reading.lexemes, Forced (.lexeme lexeme.category lexeme.literal) [] := by
  induction reads with
  | done | stuck => simp
  | @piece column piece rest later forced onward ih =>
      intro lexeme member
      rcases List.mem_append.mp member with here | further
      · obtain ⟨rfl, -⟩ := piece_of_mem_lexemes here
        exact forced.before_blank (Text.stopsRun_nil _) (by simp)
      · exact ih lexeme further
  | brokenFraction nonempty all =>
      intro lexeme member
      obtain rfl := List.mem_singleton.mp member
      exact .whole nonempty all (Text.stopsRun_nil _) (by simp [FractionAt])

/-! ### Blanks at the end of a line -/

section Blanks

variable {blanks : Text} (blank : ∀ c ∈ blanks, Text.isBlank c = true)

include blank

namespace Text

theorem stopsRun_of_blanks : blanks.StopsRun (!isBlank ·) := by
  intro c atHead
  simp [blank c (List.mem_of_mem_head? atHead)]

/-- What stands in front of the blanks, they do not belong to. -/
theorem exists_split_of_append_blanks {text before mark after : Text} (nonempty : mark ≠ [])
    (full : ∀ c ∈ mark, isBlank c = false) (split : text ++ blanks = before ++ (mark ++ after)) :
    ∃ later, text = before ++ (mark ++ later) ∧ after = later ++ blanks := by
  rw [← List.append_assoc] at split
  rcases List.append_eq_append_iff.mp split with ⟨more, markEnd, blanksEq⟩ | ⟨more, textEq, afterEq⟩
  · -- the mark would end within the blanks
    rcases List.eq_nil_or_concat more with rfl | ⟨more, last, rfl⟩
    · refine ⟨[], ?_, ?_⟩
      · rw [List.append_nil] at markEnd
        rw [List.append_nil, markEnd]
      · simpa using blanksEq.symm
    · obtain ⟨front, d, rfl⟩ := (List.eq_nil_or_concat mark).resolve_left nonempty
      obtain rfl : d = last := by
        have sameLast := congrArg List.getLast? markEnd
        simpa using sameLast
      have lastBlank := blank d (by rw [blanksEq]; simp)
      simp [full d (by simp)] at lastBlank
  · exact ⟨more, by rw [textEq, List.append_assoc], afterEq⟩

end Text

theorem commentAt_of_append_blanks {text : Text} (fits : CommentAt (text ++ blanks)) :
    CommentAt text := by
  have full {c d : Char} (first : Text.isBlank c = false) (second : Text.isBlank d = false) :
      ∀ e ∈ [c, d], Text.isBlank e = false := by
    simp [first, second]
  rcases fits with ⟨body, split, oneLine⟩ | ⟨body, rest, split, oneLine⟩
  · have opens : text ++ blanks = [] ++ (['/', '/'] ++ body) := split
    obtain ⟨later, rfl, rfl⟩ := Text.exists_split_of_append_blanks blank (List.cons_ne_nil _ _)
      (full (by decide) (by decide)) opens
    exact Or.inl ⟨later, rfl, fun member => oneLine (List.mem_append_left _ member)⟩
  · have closes : text ++ blanks = '/' :: '*' :: body ++ (['*', '/'] ++ rest) := split
    obtain ⟨later, rfl, -⟩ := Text.exists_split_of_append_blanks blank (List.cons_ne_nil _ _)
      (full (by decide) (by decide)) closes
    exact Or.inr ⟨body, later, rfl, oneLine⟩

/-- Blanks close no quote. -/
theorem Stuck.append_blanks {text : Text} {fault : Fault} (stuck : Stuck text fault) :
    Stuck (text ++ blanks) fault := by
  apply stuck.append_tail (Text.stopsRun_of_blanks blank)
  intro mark quote body later split
  have markBlank := blank mark (by rw [split]; simp)
  simp [(Text.of_quote quote).1] at markBlank

/-- Blanks at the end of a line make no difference to its reading. -/
theorem Reads.append_blanks (oneLine : '\n' ∉ blanks) {column : Nat} {text : Text} {reading : Reading}
    (reads : Reads column text reading) : Reads column (text ++ blanks) reading := by
  induction reads with
  | @done column =>
      have passed : Reads column (blanks ++ []) _ := .blanks_append blank .done
      rwa [List.append_nil] at passed
  | @piece column piece rest later forced onward ih =>
      by_cases someLine : ∃ body, piece = .comment ('/' :: '/' :: body)
      · obtain ⟨body, rfl⟩ := someLine
        cases forced with
        | lineComment oneLineBody =>
            have longer : '\n' ∉ body ++ blanks := by simp [oneLineBody, oneLine]
            have grown : Reads column ('/' :: '/' :: (body ++ blanks) ++ []) _ :=
              .piece (.lineComment longer) .done
            rw [onward.eq_of_nil]
            simpa [Piece.text, Piece.lexemes] using grown
      · rw [List.append_assoc]
        refine .piece (forced.of_opensLike (Text.opensLike_append_tail (Text.stopsRun_of_blanks blank) rest)
          (fun body same => someLine ⟨body, same⟩) fun fits => ?_) ih
        rw [← List.append_assoc] at fits
        exact commentAt_of_append_blanks blank fits
  | stuck stuck => exact .stuck (stuck.append_blanks blank)
  | brokenFraction nonempty all nonemptyDecimals allDecimals wordAfter noDigit =>
      rw [List.append_assoc, List.cons_append, List.append_assoc, List.cons_append]
      exact .brokenFraction nonempty all nonemptyDecimals allDecimals wordAfter noDigit

theorem readLine_append_blanks (oneLine : '\n' ∉ blanks) (line : Text) :
    readLine (line ++ blanks) = readLine line :=
  ((reads_readLine line).append_blanks blank oneLine).eq_readLine

end Blanks

/-! ### The lines of a source -/

theorem readLine_dropReturn (line : Text) : readLine line.dropReturn = readLine line := by
  rw [Text.dropReturn]
  split
  case isTrue returns =>
    obtain ⟨front, rfl⟩ := List.getLast?_eq_some_iff.mp returns
    rw [List.dropLast_concat, readLine_append_blanks (List.forall_mem_singleton.mpr rfl) (by decide)]
  case isFalse => rfl

/-- The readings of the stretches between the line feeds of a source. -/
def readings (source : Text) : List Reading :=
  (List.splitOn '\n' source).map readLine

/-- The lines of a source have these readings, but for an empty stretch at its end. -/
theorem map_readLine_lines (source : Text) :
    source.lines.map readLine = readings source ∨
      source.lines.map readLine ++ [{ lexemes := [], misreading? := none }] = readings source := by
  obtain ⟨init, last, parts⟩ :=
    (List.eq_nil_or_concat (List.splitOn '\n' source)).resolve_left (List.splitOn_ne_nil _ _)
  rw [List.concat_eq_append] at parts
  have sameInit : (init.map Text.dropReturn).map readLine = init.map readLine := by
    rw [List.map_map]
    exact List.map_congr_left fun line _ => readLine_dropReturn line
  have lines : source.lines = init.map Text.dropReturn ++ [last].filter (· ≠ []) := by
    rw [Text.lines, parts, List.dropLast_concat, List.getLast?_concat]
    rfl
  rw [readings, parts, lines, List.map_append, List.map_append, sameInit]
  cases last with
  | nil =>
      apply Or.inr
      have done : Reads 1 [] { lexemes := [], misreading? := none } := .done
      rw [List.map_singleton, done.eq_readLine]
      simp
  | cons c last => exact Or.inl rfl

theorem tokensFrom_concat_nothing (number : Nat) (before : List Reading) :
    tokensFrom number (before ++ [{ lexemes := [], misreading? := none }]) =
      tokensFrom number before := by
  induction before generalizing number with
  | nil => rfl
  | cons reading before ih => rw [List.cons_append, tokensFrom, ih, tokensFrom]

theorem firstError?_concat_nothing (number : Nat) (before : List Reading) :
    firstError? number (before ++ [{ lexemes := [], misreading? := none }]) =
      firstError? number before := by
  induction before generalizing number with
  | nil => rfl
  | cons reading before ih => rw [List.cons_append, firstError?, ih, firstError?]

/-- Tokenizing a source is reading the stretches between its line feeds. -/
theorem tokenize_eq_ok_iff_readings {source : Text} {table : Table} :
    tokenize source = .ok table ↔
      firstError? 1 (readings source) = none ∧ table.tokens = tokensFrom 1 (readings source) := by
  rw [tokenize_eq_ok_iff]
  rcases map_readLine_lines source with same | same
  · rw [same]
  · rw [← same, tokensFrom_concat_nothing, firstError?_concat_nothing]

theorem tokenize_eq_error_iff_readings {source : Text} {error : LexicalError} :
    tokenize source = .error error ↔ firstError? 1 (readings source) = some error := by
  rw [tokenize_eq_error_iff]
  rcases map_readLine_lines source with same | same
  · rw [same]
  · rw [← same, firstError?_concat_nothing]

end Lexical
