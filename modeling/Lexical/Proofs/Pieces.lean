/-
Module: Lexical.Proofs.Pieces
Layer: Proofs
Purpose: The token grammar, said without patterns. A line is read from left to right as a row of pieces:
  blanks, comments and lexemes. `Forced piece rest` says that the piece is what has to be cut off where
  the text goes on with the piece and then the rest; `Cut` is the relation between a line and its pieces.
  `Stuck` says of a text that no piece can be cut off, and which fault that is; `Reads` is the reading of
  a whole line, up to its end or its first fault. No piece runs over a line feed.
Imports: Lexical.Proofs.Characters, Lexical.Proofs.Matching, Lexical.Reading
Main exports: Piece, symbolTable, CommentAt, Forced, Cut, faultyRun, Stuck, Reads, exists_reads
-/

import Lexical.Proofs.Characters
import Lexical.Proofs.Matching
import Lexical.Reading

namespace Lexical

/-- What a line is cut into. -/
inductive Piece where
  /-- One blank character. -/
  | blank (c : Char)
  /-- A comment, with its marks. -/
  | comment (text : Text)
  /-- A lexeme of a category. -/
  | lexeme (category : Category) (literal : Text)
deriving DecidableEq, Repr

namespace Piece

/-- The piece as it stands in the line. -/
def text : Piece → Text
  | .blank c => [c]
  | .comment text => text
  | .lexeme _ literal => literal

/-- The category and the literal of a lexeme. Blanks and comments give nothing. -/
def token? : Piece → Option (Category × Text)
  | .lexeme category literal => some (category, literal)
  | _ => none

/-- The lexemes that the piece gives at a column. -/
def lexemes (column : Nat) : Piece → List Lexeme
  | .lexeme category literal => [{ category, literal, column }]
  | _ => []

end Piece

/-- The fixed symbols with their categories. -/
def symbolTable : List (Category × Text) :=
  Grammar.comparisonOperators.map (Category.comparisonOperator, ·) ++
    Grammar.logicalOperators.map (Category.logicalOperator, ·) ++
    Grammar.arithmeticOperators.map (Category.arithmeticOperator, ·) ++
    Grammar.delimiters.map (Category.delimiter, ·) ++
    Grammar.assignments.map (Category.assignment, ·)

/-- A comment fits at the start of the text: two slashes with no line feed behind them, or `/*` with a `*/`
behind it on the same line. -/
def CommentAt (text : Text) : Prop :=
  (∃ body, text = '/' :: '/' :: body ∧ '\n' ∉ body) ∨
    ∃ body rest, text = '/' :: '*' :: (body ++ '*' :: '/' :: rest) ∧ '\n' ∉ body

/-- A decimal point and a digit stand at the start of the text. -/
def FractionAt (text : Text) : Prop :=
  ∃ digit rest, text = '.' :: digit :: rest ∧ digit.isDigit = true

/-- The category of a word. -/
def wordCategory (word : Text) : Category :=
  if word ∈ Grammar.keywords then .keyword else .identifier

/-- Where a text begins with the piece and goes on with the rest, the piece is what is cut off. -/
inductive Forced : Piece → Text → Prop where
  /-- A blank character is a piece by itself. -/
  | blank {c : Char} {rest : Text} (blank : Text.isBlank c = true) : Forced (.blank c) rest
  /-- Two slashes, with everything to the end of the line. -/
  | lineComment {body : Text} (oneLine : '\n' ∉ body) : Forced (.comment ('/' :: '/' :: body)) []
  /-- `/*` up to the first `*/` that starts behind these two characters. -/
  | blockComment {body rest : Text} (oneLine : '\n' ∉ body)
      (first : ¬ ['*', '/'] <:+: body ++ ['*']) :
      Forced (.comment ('/' :: '*' :: (body ++ ['*', '/']))) rest
  /-- A quotation mark up to the next one. -/
  | string {body rest : Text} (oneLine : '\n' ∉ body) (first : '"' ∉ body) :
      Forced (.lexeme .string ('"' :: (body ++ ['"']))) rest
  /-- An apostrophe up to the next one, with at most one character between. -/
  | char {body rest : Text} (oneLine : '\n' ∉ body) (first : '\'' ∉ body)
      (short : body.length ≤ 1) : Forced (.lexeme .char ('\'' :: (body ++ ['\'']))) rest
  /-- The longest fixed symbol that fits, where no comment does. -/
  | symbol {category : Category} {symbol rest : Text} (member : (category, symbol) ∈ symbolTable)
      (longest : ∀ entry ∈ symbolTable, entry.2 <+: symbol ++ rest → entry.2.length ≤ symbol.length)
      (noComment : ¬ CommentAt (symbol ++ rest)) : Forced (.lexeme category symbol) rest
  /-- A letter or an underscore with all letters, underscores and digits behind it. No word character
  follows, so the run is the longest. -/
  | word {first : Char} {run rest : Text} (begins : Text.beginsWord first = true)
      (continues : ∀ c ∈ run, Text.continuesWord c = true) (ends : rest.StopsRun Text.isWord) :
      Forced (.lexeme (wordCategory (first :: run)) (first :: run)) rest
  /-- Digits that no word character and no fraction follows. -/
  | whole {digits rest : Text} (nonempty : digits ≠ []) (all : ∀ c ∈ digits, c.isDigit = true)
      (ends : rest.StopsRun Text.isWord) (noFraction : ¬ FractionAt rest) :
      Forced (.lexeme .number digits) rest
  /-- Digits, a decimal point and digits that no word character follows. -/
  | fraction {digits decimals rest : Text} (nonempty : digits ≠ [])
      (all : ∀ c ∈ digits, c.isDigit = true) (nonemptyDecimals : decimals ≠ [])
      (allDecimals : ∀ c ∈ decimals, c.isDigit = true) (ends : rest.StopsRun Text.isWord) :
      Forced (.lexeme .number (digits ++ '.' :: decimals)) rest

/-- The line is the pieces one after the other, each of them forced by what stands where it begins. -/
inductive Cut : Text → List Piece → Prop where
  | nil : Cut [] []
  | cons {piece : Piece} {rest : Text} {pieces : List Piece} (forced : Forced piece rest)
      (onward : Cut rest pieces) : Cut (piece.text ++ rest) (piece :: pieces)

/-- The characters that are reported where no piece can be cut off: the signs up to the first character
that is none, or, where the text begins with a letter or a digit, everything up to the first blank. -/
def faultyRun (text : Text) : Text :=
  if text.head?.any Text.isSign then text.takeWhile Text.isSign
  else text.takeWhile (!Text.isBlank ·)

/-- At the start of the text no piece can be cut off, because of the fault. -/
inductive Stuck : Text → Fault → Prop where
  /-- Two apostrophes with more than one character between. -/
  | longChar {body rest : Text} (oneLine : '\n' ∉ body) (first : '\'' ∉ body)
      (long : 2 ≤ body.length) :
      Stuck ('\'' :: (body ++ '\'' :: rest)) (.invalidCharLiteral ('\'' :: (body ++ ['\''])))
  /-- A quotation mark or an apostrophe that is not closed on its line. -/
  | openQuote {mark : Char} {rest : Text} (quote : mark = '"' ∨ mark = '\'')
      (unclosed : ∀ body later, rest = body ++ mark :: later → '\n' ∈ body) :
      Stuck (mark :: rest) (.unknownToken (faultyRun (mark :: rest)))
  /-- A sign that is no quote, belongs to no word and begins no symbol. -/
  | sign {c : Char} {rest : Text} (sign : Text.isSign c = true) (noQuote : c ≠ '"' ∧ c ≠ '\'')
      (noWord : c ≠ '_') (noSymbol : ∀ entry ∈ symbolTable, ¬ entry.2 <+: c :: rest) :
      Stuck (c :: rest) (.unknownToken (faultyRun (c :: rest)))
  /-- A word that goes on with a letter of another script. -/
  | brokenWord {first c : Char} {run rest : Text} (begins : Text.beginsWord first = true)
      (continues : ∀ d ∈ run, Text.continuesWord d = true) (wordAfter : Text.isWord c = true)
      (foreign : Text.continuesWord c = false) :
      Stuck (first :: (run ++ c :: rest)) (.unknownToken (faultyRun (first :: (run ++ c :: rest))))
  /-- A number that goes on with a letter. -/
  | brokenNumber {c : Char} {digits rest : Text} (nonempty : digits ≠ [])
      (all : ∀ d ∈ digits, d.isDigit = true) (wordAfter : Text.isWord c = true)
      (noDigit : c.isDigit = false) :
      Stuck (digits ++ c :: rest) (.unknownToken (faultyRun (digits ++ c :: rest)))

/-- The reading of a text that begins at the column. -/
inductive Reads : Nat → Text → Reading → Prop where
  /-- At the end of the line there is nothing to read. -/
  | done {column : Nat} : Reads column [] { lexemes := [], misreading? := none }
  /-- A piece is cut off, and the reading goes on behind it. -/
  | piece {column : Nat} {piece : Piece} {rest : Text} {later : Reading}
      (forced : Forced piece rest) (onward : Reads (column + piece.text.length) rest later) :
      Reads column (piece.text ++ rest)
        { later with lexemes := piece.lexemes column ++ later.lexemes }
  /-- No piece can be cut off. -/
  | stuck {column : Nat} {text : Text} {fault : Fault} (stuck : Stuck text fault) :
      Reads column text { lexemes := [], misreading? := some { fault, column } }
  /-- A number whose fraction goes on with a letter: the digits before the decimal point are a lexeme,
  and the point is the fault. -/
  | brokenFraction {column : Nat} {c : Char} {digits decimals rest : Text} (nonempty : digits ≠ [])
      (all : ∀ d ∈ digits, d.isDigit = true) (nonemptyDecimals : decimals ≠ [])
      (allDecimals : ∀ d ∈ decimals, d.isDigit = true) (wordAfter : Text.isWord c = true)
      (noDigit : c.isDigit = false) :
      Reads column (digits ++ '.' :: (decimals ++ c :: rest))
        { lexemes := [{ category := .number, literal := digits, column }]
          misreading? := some { fault := .unknownToken ['.'], column := column + digits.length } }

/-! ### Every text has a reading -/

namespace Text

/-- Every text begins with a longest run of accepted characters. -/
theorem exists_run (holds : Char → Bool) (text : Text) :
    ∃ run rest, text = run ++ rest ∧ (∀ c ∈ run, holds c = true) ∧ rest.StopsRun holds := by
  induction text with
  | nil => exact ⟨[], [], rfl, by simp, stopsRun_nil holds⟩
  | cons c text ih =>
      by_cases accepted : holds c = true
      · obtain ⟨run, rest, rfl, all, stops⟩ := ih
        exact ⟨c :: run, rest, rfl, List.forall_mem_cons.mpr ⟨accepted, all⟩, stops⟩
      · exact ⟨[], c :: text, rfl, by simp, stopsRun_cons.mpr (Bool.eq_false_iff.mpr accepted)⟩

/-- A run of a larger class stops where one of a smaller class does, or the next character tells the
classes apart. -/
theorem stopsRun_or_head {small : Char → Bool} (large : Char → Bool) {text : Text}
    (stops : text.StopsRun small) :
    text.StopsRun large ∨
      ∃ c rest, text = c :: rest ∧ large c = true ∧ small c = false := by
  cases text with
  | nil => exact Or.inl (stopsRun_nil large)
  | cons c rest =>
      by_cases held : large c = true
      · exact Or.inr ⟨c, rest, rfl, held, stopsRun_cons.mp stops⟩
      · exact Or.inl (stopsRun_cons.mpr (Bool.eq_false_iff.mpr held))

/-- A mark of one character stands first where the body is free of it. -/
theorem firstMark_singleton {mark : Char} {body rest : Text} :
    FirstMark [mark] body rest ↔ mark ∉ body := by
  induction body with
  | nil => simp [firstMark_nil]
  | cons c body ih =>
      rw [firstMark_cons, ih, List.mem_cons, not_or, List.cons_append, List.cons_prefix_cons]
      simp

/-- The end of a comment stands first where it is not already part of what comes before. -/
theorem firstMark_commentEnd {body rest : Text} :
    FirstMark ['*', '/'] body rest ↔ ¬ ['*', '/'] <:+: body ++ ['*'] := by
  induction body with
  | nil => simp [firstMark_nil, List.infix_cons_iff]
  | cons c body ih =>
      have here : ['*', '/'] <+: c :: body ++ (['*', '/'] ++ rest) ↔
          ['*', '/'] <+: c :: (body ++ ['*']) := by
        cases body with
        | nil => simp [List.cons_prefix_cons]
        | cons d body => simp [List.cons_prefix_cons]
      rw [firstMark_cons, ih, here, List.cons_append, List.infix_cons_iff, not_or]

end Text

/-- No fixed symbol is empty, and none is longer than two characters. -/
theorem length_of_mem_symbolTable :
    ∀ entry ∈ symbolTable, 1 ≤ entry.2.length ∧ entry.2.length ≤ 2 := by
  decide

/-- Every fixed symbol consists of characters that stand for nothing but symbols. -/
theorem symbolChars_of_mem_symbolTable :
    ∀ entry ∈ symbolTable, ∀ c ∈ entry.2, Text.isSymbolChar c = true := by
  have all : symbolTable.all (fun entry => entry.2.all Text.isSymbolChar) = true := by decide
  intro entry member
  exact List.all_eq_true.mp (List.all_eq_true.mp all entry member)

/-- A piece is never empty. -/
theorem Forced.text_ne_nil {piece : Piece} {rest : Text} (forced : Forced piece rest) :
    piece.text ≠ [] := by
  cases forced with
  | @symbol category symbol _ member =>
      intro empty
      have positive := (length_of_mem_symbolTable _ member).1
      change symbol = [] at empty
      simp [empty] at positive
  | whole nonempty => exact nonempty
  | fraction nonempty => simp [Piece.text]
  | blank | lineComment | blockComment | string | char | word => exact List.cons_ne_nil _ _

/-- A text that is stuck is not empty. -/
theorem Stuck.text_ne_nil {text : Text} {fault : Fault} (stuck : Stuck text fault) : text ≠ [] := by
  cases stuck with
  | brokenNumber => exact List.append_ne_nil_of_right_ne_nil _ (List.cons_ne_nil _ _)
  | longChar | openQuote | sign | brokenWord => exact List.cons_ne_nil _ _

/-- If some symbol fits, a longest one does. -/
theorem exists_longest_symbol {text : Text} {entry : Category × Text} (member : entry ∈ symbolTable)
    (fits : entry.2 <+: text) :
    ∃ best ∈ symbolTable, best.2 <+: text ∧
      ∀ other ∈ symbolTable, other.2 <+: text → other.2.length ≤ best.2.length := by
  by_cases long : ∃ other ∈ symbolTable, other.2 <+: text ∧ other.2.length = 2
  · obtain ⟨best, inTable, stands, two⟩ := long
    refine ⟨best, inTable, stands, fun other among _ => ?_⟩
    rw [two]
    exact (length_of_mem_symbolTable other among).2
  · refine ⟨entry, member, fits, fun other among stands => ?_⟩
    have positive := (length_of_mem_symbolTable entry member).1
    have atMostTwo := (length_of_mem_symbolTable other among).2
    have notTwo : other.2.length ≠ 2 := fun two => long ⟨other, among, stands, two⟩
    omega

/-- What stands at the start of a text that is not empty: a piece, a fault, or a number with a broken
fraction. -/
inductive Headed : Text → Prop where
  | piece {piece : Piece} {rest : Text} (forced : Forced piece rest) : Headed (piece.text ++ rest)
  | stuck {text : Text} {fault : Fault} (stuck : Stuck text fault) : Headed text
  | brokenFraction {c : Char} {digits decimals rest : Text} (nonempty : digits ≠ [])
      (all : ∀ d ∈ digits, d.isDigit = true) (nonemptyDecimals : decimals ≠ [])
      (allDecimals : ∀ d ∈ decimals, d.isDigit = true) (wordAfter : Text.isWord c = true)
      (noDigit : c.isDigit = false) : Headed (digits ++ '.' :: (decimals ++ c :: rest))

namespace Headed

theorem of_beginsWord {first : Char} {rest : Text} (begins : Text.beginsWord first = true) :
    Headed (first :: rest) := by
  obtain ⟨run, after, rfl, all, stops⟩ := Text.exists_run Text.continuesWord rest
  rcases Text.stopsRun_or_head Text.isWord stops with ends | ⟨c, later, rfl, word, foreign⟩
  · exact .piece (.word begins all ends)
  · exact .stuck (.brokenWord begins all word foreign)

theorem of_isDigit {first : Char} {rest : Text} (digit : first.isDigit = true) :
    Headed (first :: rest) := by
  obtain ⟨run, after, split, all, stops⟩ := Text.exists_run Char.isDigit (first :: rest)
  have nonempty : run ≠ [] := by
    rintro rfl
    rw [List.nil_append] at split
    simp [← split, Text.stopsRun_cons, digit] at stops
  rw [split]
  rcases Text.stopsRun_or_head Text.isWord stops with ends | ⟨c, later, rfl, word, other⟩
  · by_cases fraction : FractionAt after
    · obtain ⟨second, more, rfl, secondDigit⟩ := fraction
      obtain ⟨decimals, behind, splitMore, allDecimals, stopsMore⟩ :=
        Text.exists_run Char.isDigit (second :: more)
      have nonemptyDecimals : decimals ≠ [] := by
        rintro rfl
        rw [List.nil_append] at splitMore
        simp [← splitMore, Text.stopsRun_cons, secondDigit] at stopsMore
      rw [splitMore]
      rcases Text.stopsRun_or_head Text.isWord stopsMore with
        endsMore | ⟨c, later, rfl, word, other⟩
      · have forced := Forced.fraction nonempty all nonemptyDecimals allDecimals endsMore
        simpa [Piece.text] using Headed.piece forced
      · exact .brokenFraction nonempty all nonemptyDecimals allDecimals word other
    · exact .piece (.whole nonempty all ends fraction)
  · exact .stuck (.brokenNumber nonempty all word other)

theorem of_quote {mark : Char} {rest : Text} (quote : mark = '"' ∨ mark = '\'') :
    Headed (mark :: rest) := by
  by_cases closed : ∃ body later, rest = body ++ mark :: later ∧ '\n' ∉ body
  · obtain ⟨body, later, rfl, oneLine⟩ := closed
    obtain ⟨shorter, after, split, stretch, first⟩ := Text.exists_firstMark [mark] body later
    have oneLineShorter : '\n' ∉ shorter := fun member => oneLine (stretch.subset member)
    have free := Text.firstMark_singleton.mp first
    rw [List.singleton_append, List.singleton_append] at split
    rw [split]
    rcases quote with rfl | rfl
    · have forced : Forced (.lexeme .string ('"' :: (shorter ++ ['"']))) after :=
        .string oneLineShorter free
      simpa [Piece.text] using Headed.piece forced
    · by_cases short : shorter.length ≤ 1
      · have forced : Forced (.lexeme .char ('\'' :: (shorter ++ ['\'']))) after :=
          .char oneLineShorter free short
        simpa [Piece.text] using Headed.piece forced
      · exact .stuck (.longChar oneLineShorter free (by omega))
  · refine .stuck (.openQuote quote fun body later split => ?_)
    exact Decidable.byContradiction fun oneLine => closed ⟨body, later, split, oneLine⟩

theorem of_commentAt {text : Text} (fits : CommentAt text) : Headed text := by
  rcases fits with ⟨body, rfl, oneLine⟩ | ⟨body, rest, rfl, oneLine⟩
  · simpa [Piece.text] using Headed.piece (Forced.lineComment oneLine)
  · obtain ⟨shorter, after, split, stretch, first⟩ := Text.exists_firstMark ['*', '/'] body rest
    have oneLineShorter : '\n' ∉ shorter := fun member => oneLine (stretch.subset member)
    have forced : Forced (.comment ('/' :: '*' :: (shorter ++ ['*', '/']))) after :=
      .blockComment oneLineShorter (Text.firstMark_commentEnd.mp first)
    rw [List.cons_append, List.singleton_append] at split
    rw [split]
    simpa [Piece.text] using Headed.piece forced

theorem of_isSign {c : Char} {rest : Text} (sign : Text.isSign c = true) : Headed (c :: rest) := by
  by_cases word : c = '_'
  · exact of_beginsWord (by rw [word]; decide)
  by_cases quote : c = '"' ∨ c = '\''
  · exact of_quote quote
  by_cases comment : CommentAt (c :: rest)
  · exact of_commentAt comment
  by_cases symbol : ∃ entry ∈ symbolTable, entry.2 <+: c :: rest
  · obtain ⟨entry, member, fits⟩ := symbol
    obtain ⟨⟨category, best⟩, inTable, ⟨after, split⟩, longest⟩ := exists_longest_symbol member fits
    rw [← split] at longest comment ⊢
    exact .piece (.symbol inTable longest comment)
  · refine .stuck (.sign sign (not_or.mp quote) word fun entry member fits => ?_)
    exact symbol ⟨entry, member, fits⟩

end Headed

/-- Every text but the empty one begins with a piece, a fault, or a number with a broken fraction. -/
theorem headed_cons (c : Char) (rest : Text) : Headed (c :: rest) := by
  by_cases blank : Text.isBlank c = true
  · exact .piece (.blank blank)
  by_cases begins : Text.beginsWord c = true
  · exact .of_beginsWord begins
  by_cases digit : c.isDigit = true
  · exact .of_isDigit digit
  · refine .of_isSign ?_
    simp only [Text.beginsWord, Bool.or_eq_true, not_or] at begins
    simp [Text.isSign, Char.isAlphanum, begins.1, digit, blank]

/-- Every text has a reading. -/
theorem exists_reads (text : Text) (column : Nat) : ∃ reading, Reads column text reading := by
  generalize size : text.length = n
  induction n using Nat.strongRecOn generalizing text column with
  | ind n ih =>
      cases text with
      | nil => exact ⟨_, .done⟩
      | cons c rest =>
          have head := headed_cons c rest
          generalize c :: rest = whole at head size
          cases head with
          | @piece piece rest forced =>
              have shorter : rest.length < n := by
                have positive := List.length_pos_iff.mpr forced.text_ne_nil
                rw [← size, List.length_append]
                omega
              obtain ⟨later, onward⟩ := ih _ shorter rest (column + piece.text.length) rfl
              exact ⟨_, .piece forced onward⟩
          | stuck stuck => exact ⟨_, .stuck stuck⟩
          | brokenFraction nonempty all nonemptyDecimals allDecimals wordAfter noDigit =>
              exact ⟨_, .brokenFraction nonempty all nonemptyDecimals allDecimals wordAfter noDigit⟩

end Lexical
