/-
Module: Lexical.Proofs.Spelling
Layer: Proofs
Purpose: What tokens look like. Every category has its spelling (`Category.Spells`), and whatever lines a
  scanner was given, each token of its table is spelled as its category says, also on a line that has a
  fault farther on. A lexeme is moreover a piece by itself (`Reads.forced_alone`), so its literal alone
  decides its category, and keywords, identifiers and numbers touch no other word character in their line:
  the place before each of them is fresh, which is the invariant of the walk over a line, and the grammar
  looks at what follows them.
Imports: Lexical.Proofs.BlankTails, Lexical.Proofs.Sessions
Main exports: Category.Spells, Forced.spells, Forced.oneLine, wordCategories, Reads.standsFree,
  Scanner.mem_after, Scanner.forced_of_mem_after, Scanner.tokens_after_spelled
-/

import Lexical.Proofs.BlankTails
import Lexical.Proofs.Sessions

namespace Lexical

/-! ### Spellings -/

/-- There is a digit, and nothing but digits. -/
def Text.IsDigits (text : Text) : Prop :=
  text ≠ [] ∧ ∀ c ∈ text, c.isDigit = true

/-- A letter or an underscore, and then letters, digits and underscores. -/
def Text.IsWord (text : Text) : Prop :=
  ∃ first run, text = first :: run ∧ beginsWord first = true ∧ ∀ c ∈ run, continuesWord c = true

/-- Two marks of the same kind around a body that holds neither a third one nor a line feed. -/
def Text.IsQuoted (mark : Char) (body text : Text) : Prop :=
  text = mark :: (body ++ [mark]) ∧ mark ∉ body ∧ '\n' ∉ body

/-- How the literals of a category are spelled. -/
def Category.Spells (category : Category) (literal : Text) : Prop :=
  match category with
  | .keyword => literal ∈ Grammar.keywords
  | .logicalOperator => literal ∈ Grammar.logicalOperators
  | .arithmeticOperator => literal ∈ Grammar.arithmeticOperators
  | .comparisonOperator => literal ∈ Grammar.comparisonOperators
  | .delimiter => literal ∈ Grammar.delimiters
  | .identifier => literal.IsWord ∧ literal ∉ Grammar.keywords
  | .assignment => literal ∈ Grammar.assignments
  | .number => literal.IsDigits ∨
      ∃ whole decimals : Text, literal = whole ++ '.' :: decimals ∧ whole.IsDigits ∧ decimals.IsDigits
  | .unknown => False
  | .char => ∃ body, Text.IsQuoted '\'' body literal ∧ body.length ≤ 1
  | .string => ∃ body, Text.IsQuoted '"' body literal

/-- A fixed symbol is spelled as its category says. -/
theorem spells_of_mem_symbolTable {category : Category} {symbol : Text}
    (member : (category, symbol) ∈ symbolTable) : category.Spells symbol := by
  cases category <;> simp [symbolTable] at member <;> exact member

/-- A word is a keyword or spelled as an identifier. -/
theorem spells_wordCategory {word : Text} (isWord : word.IsWord) : (wordCategory word).Spells word := by
  by_cases keyword : word ∈ Grammar.keywords
  · simp [wordCategory, keyword, Category.Spells]
  · simp [wordCategory, keyword, Category.Spells, isWord]

/-- A lexeme that is cut off is spelled as its category says. -/
theorem Forced.spells {category : Category} {literal rest : Text}
    (forced : Forced (.lexeme category literal) rest) : category.Spells literal := by
  cases forced with
  | string oneLine first => exact ⟨_, rfl, first, oneLine⟩
  | char oneLine first short => exact ⟨_, ⟨rfl, first, oneLine⟩, short⟩
  | symbol member => exact spells_of_mem_symbolTable member
  | word begins continues => exact spells_wordCategory ⟨_, _, rfl, begins, continues⟩
  | whole nonempty all => exact Or.inl ⟨nonempty, all⟩
  | fraction nonempty all nonemptyDecimals allDecimals =>
      exact Or.inr ⟨_, _, rfl, ⟨nonempty, all⟩, nonemptyDecimals, allDecimals⟩

/-- No lexeme holds a line feed. -/
theorem Forced.oneLine {category : Category} {literal rest : Text}
    (forced : Forced (.lexeme category literal) rest) : '\n' ∉ literal := by
  intro member
  cases forced with
  | string oneLine => simp [oneLine] at member
  | char oneLine => simp [oneLine] at member
  | symbol inTable =>
      have symbolChar := symbolChars_of_mem_symbolTable _ inTable '\n' member
      exact absurd symbolChar (by decide)
  | word begins continues =>
      rcases List.mem_cons.mp member with rfl | inRun
      · exact absurd begins (by decide)
      · exact absurd (continues '\n' inRun) (by decide)
  | whole nonempty all => exact absurd (all '\n' member) (by decide)
  | fraction nonempty all nonemptyDecimals allDecimals =>
      rcases List.mem_append.mp member with inDigits | behind
      · exact absurd (all '\n' inDigits) (by decide)
      · rcases List.mem_cons.mp behind with point | inDecimals
        · exact absurd point (by decide)
        · exact absurd (allDecimals '\n' inDecimals) (by decide)

/-! ### Words and numbers stand free -/

/-- The categories of lexemes that are made of word characters, but for a decimal point. -/
def wordCategories : List Category :=
  [.keyword, .identifier, .number]

theorem not_wordCategory_of_mem_symbolTable :
    ∀ entry ∈ symbolTable, entry.1 ∉ wordCategories := by
  decide

/-- A keyword, an identifier and a number begin with a word character, and none stands behind them. -/
theorem Forced.word_ends {category : Category} {literal rest : Text}
    (forced : Forced (.lexeme category literal) rest) (inWords : category ∈ wordCategories) :
    (∃ first ∈ literal.head?, Text.isWord first = true) ∧ rest.StopsRun Text.isWord := by
  cases forced with
  | string | char => exact absurd inWords (by decide)
  | symbol member => exact absurd inWords (not_wordCategory_of_mem_symbolTable _ member)
  | word begins continues ends =>
      exact ⟨⟨_, rfl, Text.isWord_of_continuesWord (Text.continuesWord_of_beginsWord begins)⟩, ends⟩
  | whole nonempty all ends =>
      obtain ⟨first, more, rfl⟩ := List.exists_cons_of_ne_nil nonempty
      exact ⟨⟨first, rfl, Text.isWord_of_isDigit (all first List.mem_cons_self)⟩, ends⟩
  | @fraction digits _ _ nonempty all nonemptyDecimals allDecimals ends =>
      obtain ⟨first, more, rfl⟩ := List.exists_cons_of_ne_nil nonempty
      exact ⟨⟨first, rfl, Text.isWord_of_isDigit (all first List.mem_cons_self)⟩, ends⟩

/-- Every lexeme of a reading stands where its column says, and if it is a keyword, an identifier or a number,
no word character stands directly before it or behind it. -/
theorem Reads.standsFree {column : Nat} {text : Text} {reading : Reading}
    (reads : Reads column text reading) {place : Place} (fresh : place.Fresh) (split : place.rest = text) :
    ∀ lexeme ∈ reading.lexemes, ∃ before after, text = before ++ lexeme.literal ++ after ∧
      lexeme.column = column + before.length ∧
        (lexeme.category ∈ wordCategories →
          (place.past before).wordBefore = false ∧ after.StopsRun Text.isWord) := by
  induction reads generalizing place with
  | done | stuck => simp
  | @piece column piece rest later forced onward ih =>
      intro lexeme member
      rcases List.mem_append.mp member with here | further
      · obtain ⟨rfl, sameColumn⟩ := piece_of_mem_lexemes here
        refine ⟨[], rest, rfl, sameColumn, fun inWords => ?_⟩
        obtain ⟨⟨first, atHead, isWord⟩, ends⟩ := forced.word_ends inWords
        obtain ⟨more, literalEq⟩ := List.head?_eq_some_iff.mp atHead
        have wordAfter : place.wordAfter = true := by
          simp [Place.wordAfter, split, Piece.text, literalEq, isWord]
        exact ⟨fresh wordAfter, ends⟩
      · obtain ⟨before, after, rfl, columnEq, apart⟩ :=
          ih (forced.fresh_past split) (Place.rest_past split) lexeme further
        refine ⟨piece.text ++ before, after, by simp, ?_, ?_⟩
        · rw [columnEq, List.length_append, Nat.add_assoc]
        · rwa [Place.past_append]
  | @brokenFraction column c digits decimals rest nonempty all =>
      intro lexeme member
      obtain rfl := List.mem_singleton.mp member
      refine ⟨[], _, rfl, rfl, fun _ => ⟨fresh ?_, Text.stopsRun_cons.mpr rfl⟩⟩
      obtain ⟨first, more, rfl⟩ := List.exists_cons_of_ne_nil nonempty
      rw [Place.wordAfter, split]
      exact Text.isWord_of_isDigit (all first List.mem_cons_self)

/-- The character before a place behind which no word goes on is no word character. -/
theorem Place.getLast?_of_wordBefore {place : Place} {before : Text}
    (noWord : (place.past before).wordBefore = false) : ∀ c ∈ before.getLast?, Text.isWord c = false := by
  intro c isLast
  obtain ⟨front, rfl⟩ := List.getLast?_eq_some_iff.mp isLast
  rwa [Place.wordBefore_past_concat] at noWord

/-! ### The tokens of a session -/

namespace Scanner

/-- The tokens of a session are the lexemes of its lines. -/
theorem mem_after {lines : List Text} {token : Token} :
    token ∈ (start.after lines).table.tokens ↔
      ∃ index line lexeme, lines[index]? = some line ∧ lexeme ∈ (readLine line).lexemes ∧
        token = lexeme.toToken (index + 1) := by
  have tokens : (start.after lines).table.tokens = tokensFrom 1 (lines.map readLine) :=
    start.tokens_after lines
  rw [tokens, mem_tokensFrom_readLine]
  simp only [Nat.add_comm 1]

theorem forced_of_mem_after {lines : List Text} {token : Token}
    (member : token ∈ (start.after lines).table.tokens) :
    Forced (.lexeme token.category token.literal) [] := by
  obtain ⟨index, line, lexeme, -, inReading, rfl⟩ := mem_after.mp member
  exact (reads_readLine line).forced_alone lexeme inReading

/-- Every token of a session is a whole lexeme of its category, spelled as the category says. It stands in its
line at its column, and if it is a keyword, an identifier or a number, no word character stands directly
before it or behind it there. Tokens with the same literal have the same category, be they of the same
session or of two. -/
theorem tokens_after_spelled :
    (∀ lines, ∀ token ∈ (start.after lines).table.tokens,
        token.category.Spells token.literal ∧
          ∃ index line before after, token.position.line = index + 1 ∧ lines[index]? = some line ∧
            line = before ++ token.literal ++ after ∧ token.position.column = before.length + 1 ∧
              (token.category ∈ wordCategories →
                ∀ c, c ∈ before.getLast? ∨ c ∈ after.head? → Text.isWord c = false)) ∧
      ∀ lines others, ∀ first ∈ (start.after lines).table.tokens,
        ∀ second ∈ (start.after others).table.tokens,
          first.literal = second.literal → first.category = second.category := by
  constructor
  · intro lines token member
    have spelled := (forced_of_mem_after member).spells
    obtain ⟨index, line, lexeme, isLine, inReading, rfl⟩ := mem_after.mp member
    obtain ⟨before, after, split, column, free⟩ :=
      (reads_readLine line).standsFree (Place.fresh_start line) rfl lexeme inReading
    refine ⟨spelled, index, line, before, after, rfl, isLine, split, ?_, fun inWords c touches => ?_⟩
    · exact column.trans (Nat.add_comm 1 _)
    · obtain ⟨noWordBefore, noWordAfter⟩ := free inWords
      rcases touches with isLast | isFirst
      · exact Place.getLast?_of_wordBefore noWordBefore c isLast
      · exact noWordAfter c isFirst
  · intro lines others first inFirst second inSecond sameLiteral
    have samePiece : Piece.lexeme first.category first.literal = .lexeme second.category second.literal :=
      (forced_of_mem_after inFirst).unique (forced_of_mem_after inSecond) (by simp [Piece.text, sameLiteral])
    exact (Piece.lexeme.inj samePiece).1

/-- In front of a fraction that a letter spoils, the digits stay a number, and a decimal point behind them is
no word character. -/
theorem tokens_after_spelled_broken_fraction :
    let line := "if 12.5x".toList
    let number : Token := { category := .number, literal := "12".toList, position := ⟨1, 4⟩ }
    ((start.scanLine line).error?.isSome = true ∧ number ∈ (start.after [line]).table.tokens) ∧
      Category.number.Spells "12".toList ∧
        ∃ before after, line = before ++ "12".toList ++ after ∧ 4 = before.length + 1 ∧
          ∀ c, c ∈ before.getLast? ∨ c ∈ after.head? → Text.isWord c = false := by
  intro line number
  have digits : Reads 4 "12.5x".toList _ :=
    @Reads.brokenFraction 4 'x' "12".toList "5".toList [] (by decide) (List.all_eq_true.mp rfl) (by decide)
      (List.all_eq_true.mp rfl) rfl rfl
  have keyword : Forced (.lexeme (wordCategory "if".toList) "if".toList) " 12.5x".toList :=
    .word rfl (List.forall_mem_singleton.mpr rfl) (Text.stopsRun_cons.mpr rfl)
  have reads : Reads 1 line _ := .piece keyword (.piece (.blank rfl) digits)
  have fails : (start.scanLine line).error?.isSome = true := by
    rw [scanLine, reads.eq_readLine]
    rfl
  have member : number ∈ (start.after [line]).table.tokens := by
    refine mem_after.mpr ⟨0, line, { category := .number, literal := "12".toList, column := 4 }, rfl, ?_, rfl⟩
    rw [reads.eq_readLine]
    exact List.mem_append_right _ (List.mem_singleton.mpr rfl)
  obtain ⟨spelled, index, other, before, after, place, isLine, split, column, free⟩ :=
    tokens_after_spelled.1 [line] number member
  obtain rfl : 0 = index := Nat.succ.inj place
  obtain rfl : line = other := Option.some.inj isLine
  exact ⟨⟨fails, member⟩, spelled, before, after, split, column, free (by decide)⟩

end Scanner

end Lexical
