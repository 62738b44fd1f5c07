/-
Module: Lexical.Proofs.FirstMatch
Layer: Proofs
Purpose: Which rule of the language comes first. At a fresh place a forced piece other than a blank is
  found, by a rule of its action and in its full length; where a text is stuck, either a character literal
  that is too long is found, or unknown characters, or nothing. So what the rules find at a place is
  decided by the text alone.
Imports: Lexical.Proofs.SignMatches, Lexical.Proofs.WordMatches
Main exports: Piece.action, Grammar.firstMatch?_rules, finds_of_quote, Forced.finds, Stuck.finds_unknown,
  finds_brokenFraction
-/

import Lexical.Proofs.SignMatches
import Lexical.Proofs.WordMatches

namespace Lexical

open Grammar

variable {place : Place} {c : Char} {rest : Text}

/-- What becomes of a piece. -/
def Piece.action : Piece → Action
  | .lexeme category _ => .emit category
  | _ => .skip

/-- The rules are tried in their order, those for symbols as one. -/
theorem Grammar.firstMatch?_rules (place : Place) :
    firstMatch? rules place =
      ((keywordRule.pattern.match? place).map (keywordRule, ·)).or
        (((commentRule.pattern.match? place).map (commentRule, ·)).or
          ((firstMatch? symbolRules place).or
            (((stringRule.pattern.match? place).map (stringRule, ·)).or
              (((charRule.pattern.match? place).map (charRule, ·)).or
                (((identifierRule.pattern.match? place).map (identifierRule, ·)).or
                  (((numberRule.pattern.match? place).map (numberRule, ·)).or
                    (((blankRule.pattern.match? place).map (blankRule, ·)).or
                      ((unknownRule.pattern.match? place).map (unknownRule, ·))))))))) := by
  have parts : rules = keywordRule :: commentRule :: (symbolRules ++
      [stringRule, charRule, identifierRule, numberRule, blankRule, unknownRule]) := rfl
  simp only [parts, firstMatch?_cons, firstMatch?_append, firstMatch?_nil, Option.or_none]

/-- A quote is opened by its mark only. -/
theorem quotes_none (split : place.rest = c :: rest) (noQuote : c ≠ '"' ∧ c ≠ '\'') :
    stringRule.pattern.match? place = none ∧ charRule.pattern.match? place = none :=
  ⟨quoted_none_of_ne split noQuote.1, quoted_none_of_ne split noQuote.2⟩

/-- A word or a number begins with a word character, which is neither a slash nor a quote and stands in no
symbol. -/
theorem signs_none_of_isWord (split : place.rest = c :: rest) (word : Text.isWord c = true) :
    commentRule.pattern.match? place = none ∧ firstMatch? symbolRules place = none ∧
      stringRule.pattern.match? place = none ∧ charRule.pattern.match? place = none := by
  refine ⟨comment_none (not_commentAt split (Text.ne_of_isWord word rfl)), ?_, ?_⟩
  · apply symbols_none (no_symbol split _)
    simp [Text.isSymbolChar, word]
  · exact quotes_none split ⟨Text.ne_of_isWord word rfl, Text.ne_of_isWord word rfl⟩

/-- Words and numbers begin with word characters. -/
theorem words_none_of_stopsRun (ends : place.rest.StopsRun Text.isWord) :
    keywordRule.pattern.match? place = none ∧ identifierRule.pattern.match? place = none ∧
      numberRule.pattern.match? place = none := by
  have noStart : place.rest.StopsRun Text.beginsWord := ends.mono fun _ begins =>
    Text.isWord_of_continuesWord (Text.continuesWord_of_beginsWord begins)
  exact ⟨keyword_none_of_head noStart, identifier_none_of_head noStart,
    number_none_of_head (ends.mono fun _ => Text.isWord_of_isDigit)⟩

theorem words_none_of_not_isWord (split : place.rest = c :: rest) (notWord : Text.isWord c = false) :
    keywordRule.pattern.match? place = none ∧ identifierRule.pattern.match? place = none ∧
      numberRule.pattern.match? place = none := by
  exact words_none_of_stopsRun (Text.stopsRun_of_eq_cons split notWord)

/-- Before a digit only the number rule is left. -/
theorem finds_of_isDigit (split : place.rest = c :: rest)
    (digit : c.isDigit = true) :
    firstMatch? rules place = (numberRule.pattern.match? place).map (numberRule, ·) := by
  have continues := Text.continuesWord_of_isDigit digit
  have noStart : place.rest.StopsRun Text.beginsWord :=
    Text.stopsRun_of_eq_cons split (Text.beginsWord_of_isDigit digit)
  have notSign : Text.isSign c = false := by simp [Text.isSign, Char.isAlphanum, digit]
  obtain ⟨noComment, noSymbol, noString, noChar⟩ :=
    signs_none_of_isWord split (Text.isWord_of_continuesWord continues)
  rw [firstMatch?_rules, keyword_none_of_head noStart, noComment, noSymbol, noString,
    noChar, identifier_none_of_head noStart,
    blank_none split (Text.isBlank_of_continuesWord continues), unknown_none split notSign]
  simp only [Option.map_none, Option.none_or, Option.or_none]

/-- Before a quote only the rules for quotes are left, and the last rule behind them. -/
theorem finds_of_quote (split : place.rest = c :: rest) (quote : c = '"' ∨ c = '\'') :
    firstMatch? rules place =
      ((stringRule.pattern.match? place).map (stringRule, ·)).or
        (((charRule.pattern.match? place).map (charRule, ·)).or
          ((unknownRule.pattern.match? place).map (unknownRule, ·))) := by
  obtain ⟨notBlank, notWord, other, noSlash⟩ := Text.of_quote quote
  obtain ⟨noKeyword, noIdentifier, noNumber⟩ := words_none_of_not_isWord split notWord
  rw [firstMatch?_rules, noKeyword, comment_none (not_commentAt split noSlash),
    symbols_none (no_symbol split other), noIdentifier, noNumber, blank_none split notBlank]
  simp only [Option.map_none, Option.none_or]

/-- Where every other rule fails before a character that is not blank, the last rule decides. -/
theorem finds_of_unclaimed (split : place.rest = c :: rest) (notBlank : Text.isBlank c = false)
    (noKeyword : keywordRule.pattern.match? place = none)
    (noComment : commentRule.pattern.match? place = none)
    (noSymbol : firstMatch? symbolRules place = none)
    (noString : stringRule.pattern.match? place = none)
    (noChar : charRule.pattern.match? place = none)
    (noIdentifier : identifierRule.pattern.match? place = none)
    (noNumber : numberRule.pattern.match? place = none) :
    firstMatch? rules place = (unknownRule.pattern.match? place).map (unknownRule, ·) := by
  rw [firstMatch?_rules, noKeyword, noComment, noSymbol, noString, noChar, noIdentifier, noNumber,
    blank_none split notBlank]
  simp only [Option.map_none, Option.none_or]

/-! ### Pieces -/

/-- A text between two apostrophes is found as a character literal, however long it is. -/
theorem finds_char {body : Text}
    (split : place.rest = '\'' :: (body ++ '\'' :: rest)) (oneLine : '\n' ∉ body)
    (first : '\'' ∉ body) :
    firstMatch? rules place = some (charRule, place.past ('\'' :: (body ++ ['\'']))) := by
  have noString : stringRule.pattern.match? place = none := quoted_none_of_ne split (by decide)
  have found : charRule.pattern.match? place = _ := quoted_some split oneLine first
  rw [finds_of_quote split (Or.inr rfl), noString, found]
  rfl

/-- A comment is found, and by the rule for comments. -/
theorem Forced.finds_comment {text : Text} (forced : Forced (.comment text) rest)
    (split : place.rest = text ++ rest) :
    firstMatch? rules place = some (commentRule, place.past text) := by
  cases forced with
  | @lineComment body oneLine =>
      have splitLine : place.rest = '/' :: '/' :: body := by rw [split, List.append_nil]
      obtain ⟨noKeyword, -, -⟩ := words_none_of_not_isWord splitLine (by decide)
      rw [firstMatch?_rules, noKeyword, comment_line splitLine oneLine]
      rfl
  | @blockComment body _ oneLine first =>
      have splitBlock : place.rest = '/' :: '*' :: (body ++ '*' :: '/' :: rest) := by simp [split]
      obtain ⟨noKeyword, -, -⟩ := words_none_of_not_isWord splitBlock (by decide)
      rw [firstMatch?_rules, noKeyword, comment_block splitBlock oneLine first]
      rfl

/-- A forced piece is found, in its full length and by a rule of its action. -/
theorem Forced.finds {piece : Piece} (forced : Forced piece rest) (fresh : place.Fresh)
    (split : place.rest = piece.text ++ rest) (notBlank : ∀ c, piece ≠ .blank c) :
    ∃ rule, rule.action = piece.action ∧
      firstMatch? rules place = some (rule, place.past piece.text) := by
  cases forced with
  | @blank c => exact absurd rfl (notBlank c)
  | lineComment oneLine => exact ⟨commentRule, rfl, (Forced.lineComment oneLine).finds_comment split⟩
  | blockComment oneLine first =>
      exact ⟨commentRule, rfl, (Forced.blockComment oneLine first).finds_comment split⟩
  | @string body _ oneLine first =>
      have splitString : place.rest = '"' :: (body ++ '"' :: rest) := by
        rw [split]
        simp [Piece.text]
      have found : stringRule.pattern.match? place = _ := quoted_some splitString oneLine first
      refine ⟨stringRule, rfl, ?_⟩
      rw [finds_of_quote splitString (Or.inl rfl), found]
      rfl
  | @char body _ oneLine first short =>
      have splitChar : place.rest = '\'' :: (body ++ '\'' :: rest) := by
        rw [split]
        simp [Piece.text]
      exact ⟨charRule, rfl, finds_char splitChar oneLine first⟩
  | @symbol category symbol _ member longest noComment =>
      change place.rest = symbol ++ rest at split
      obtain ⟨first, more, symbolEq⟩ : ∃ first more, symbol = first :: more :=
        List.exists_cons_of_ne_nil (Forced.symbol member longest noComment).text_ne_nil
      have splitFirst : place.rest = first :: (more ++ rest) := by
        rw [split, symbolEq, List.cons_append]
      have symbolChar := symbolChars_of_mem_symbolTable _ member first (by simp [symbolEq])
      have notWord : Text.isWord first = false := by
        simp only [Text.isSymbolChar, Bool.and_eq_true, Bool.not_eq_true'] at symbolChar
        exact symbolChar.1.1.2
      obtain ⟨noKeyword, -, -⟩ := words_none_of_not_isWord splitFirst notWord
      obtain ⟨rule, action, found⟩ := symbols_some member split longest
      rw [← split] at noComment
      refine ⟨rule, action, ?_⟩
      rw [firstMatch?_rules, noKeyword, comment_none noComment, found]
      rfl
  | @word first run _ begins continues ends =>
      have splitWord : place.rest = first :: (run ++ rest) := split
      have all : ∀ d ∈ first :: run, Text.continuesWord d = true :=
        List.forall_mem_cons.mpr ⟨Text.continuesWord_of_beginsWord begins, continues⟩
      have firstWord := Text.isWord_of_continuesWord (all first List.mem_cons_self)
      have stops := ends.mono fun _ => Text.isWord_of_continuesWord
      by_cases keyword : first :: run ∈ keywords
      · refine ⟨keywordRule, ?_, ?_⟩
        · rw [Piece.action, wordCategory, if_pos keyword]
          rfl
        · rw [firstMatch?_rules, keyword_some fresh splitWord firstWord all stops keyword ends]
          rfl
      · have noKeyword := keyword_none fresh splitWord firstWord all stops fun both => keyword both.1
        obtain ⟨noComment, noSymbol, noString, noChar⟩ := signs_none_of_isWord splitWord firstWord
        refine ⟨identifierRule, ?_, ?_⟩
        · rw [Piece.action, wordCategory, if_neg keyword]
          rfl
        · rw [firstMatch?_rules, noKeyword, noComment, noSymbol, noString, noChar,
            identifier_some fresh splitWord firstWord all stops begins ends]
          rfl
  | @whole digits _ nonempty all ends noFraction =>
      obtain ⟨first, more, rfl⟩ := List.exists_cons_of_ne_nil nonempty
      refine ⟨numberRule, rfl, ?_⟩
      rw [finds_of_isDigit split (all first List.mem_cons_self),
        number_whole fresh split nonempty all ends noFraction]
      rfl
  | @fraction digits decimals _ nonempty all nonemptyDecimals allDecimals ends =>
      have splitDigits : place.rest = digits ++ ('.' :: (decimals ++ rest)) := by
        rw [split]
        simp [Piece.text]
      have stops := ends.mono fun _ => Text.isWord_of_isDigit
      have found := number_fraction fresh splitDigits nonempty all rfl nonemptyDecimals allDecimals
        stops ends
      obtain ⟨first, more, rfl⟩ := List.exists_cons_of_ne_nil nonempty
      refine ⟨numberRule, rfl, ?_⟩
      rw [finds_of_isDigit splitDigits (all first List.mem_cons_self), found]
      rfl

/-! ### Faults -/

/-- The reported characters begin with a sign exactly if they are what the last rule takes together. -/
theorem faultyRun_of_isSign (sign : Text.isSign c = true) :
    faultyRun (c :: rest) = (c :: rest).takeWhile Text.isSign := by
  simp [faultyRun, sign]

theorem faultyRun_of_not_isSign (notSign : Text.isSign c = false) :
    faultyRun (c :: rest) = (c :: rest).takeWhile (!Text.isBlank ·) := by
  simp [faultyRun, notSign]

/-- Where a text is stuck at unknown characters, the last rule decides. -/
theorem Stuck.finds_unknown {literal : Text} (stuck : Stuck (c :: rest) (.unknownToken literal))
    (fresh : place.Fresh) (split : place.rest = c :: rest) :
    firstMatch? rules place = (unknownRule.pattern.match? place).map (unknownRule, ·) ∧
      literal = faultyRun (c :: rest) ∧ Text.isBlank c = false := by
  generalize textEq : c :: rest = text at stuck
  generalize faultEq : Fault.unknownToken literal = fault at stuck
  cases stuck with
  | longChar => exact absurd faultEq (by simp)
  | @openQuote mark later quote unclosed =>
      obtain ⟨rfl, rfl⟩ := List.cons.inj textEq
      have noQuotes : stringRule.pattern.match? place = none ∧
          charRule.pattern.match? place = none := by
        rcases quote with rfl | rfl
        · refine ⟨quoted_none fun body after opened => ?_, quoted_none_of_ne split (by decide)⟩
          exact unclosed body after (List.cons.inj (split.symm.trans opened)).2
        · refine ⟨quoted_none_of_ne split (by decide), quoted_none fun body after opened => ?_⟩
          exact unclosed body after (List.cons.inj (split.symm.trans opened)).2
      refine ⟨?_, Fault.unknownToken.inj faultEq, (Text.of_quote quote).1⟩
      rw [finds_of_quote split quote, noQuotes.1, noQuotes.2]
      rfl
  | @sign d later sign noQuote noWord noSymbol =>
      obtain ⟨rfl, rfl⟩ := List.cons.inj textEq
      have notBlank := Text.isBlank_of_isSign sign
      have notAlphanum := Text.isAlphanum_of_isSign sign
      simp only [Char.isAlphanum, Bool.or_eq_false_iff] at notAlphanum
      have noStart : place.rest.StopsRun Text.beginsWord :=
        Text.stopsRun_of_eq_cons split (by simp [Text.beginsWord, notAlphanum.1, noWord])
      have noDigit : place.rest.StopsRun Char.isDigit := Text.stopsRun_of_eq_cons split notAlphanum.2
      have noSlash : c ≠ '/' := by
        rintro rfl
        exact noSymbol (.arithmeticOperator, ['/']) (by decide) ⟨rest, rfl⟩
      obtain ⟨noString, noChar⟩ := quotes_none split noQuote
      rw [← split] at noSymbol
      exact ⟨finds_of_unclaimed split notBlank (keyword_none_of_head noStart)
        (comment_none (not_commentAt split noSlash)) (symbols_none noSymbol) noString noChar
        (identifier_none_of_head noStart) (number_none_of_head noDigit),
        Fault.unknownToken.inj faultEq, notBlank⟩
  | @brokenWord first d run later begins continues wordAfter foreign =>
      obtain ⟨rfl, rfl⟩ := List.cons.inj textEq
      have all : ∀ e ∈ c :: run, Text.continuesWord e = true :=
        List.forall_mem_cons.mpr ⟨Text.continuesWord_of_beginsWord begins, continues⟩
      have firstContinues := all c List.mem_cons_self
      have word := Text.isWord_of_continuesWord firstContinues
      have stops : Text.StopsRun Text.continuesWord (d :: later) := Text.stopsRun_cons.mpr foreign
      have goesOn : ¬ Text.StopsRun Text.isWord (d :: later) := Text.not_stopsRun_cons wordAfter
      have noDigit : place.rest.StopsRun Char.isDigit := by
        apply Text.stopsRun_of_eq_cons split
        rw [Bool.eq_false_iff]
        intro digit
        simp [Text.beginsWord_of_isDigit digit] at begins
      have noKeyword := keyword_none fresh split word all stops fun both => goesOn both.2
      obtain ⟨noComment, noSymbol, noString, noChar⟩ := signs_none_of_isWord split word
      exact ⟨finds_of_unclaimed split (Text.isBlank_of_continuesWord firstContinues) noKeyword noComment
        noSymbol noString noChar (identifier_none fresh split word all stops begins goesOn)
        (number_none_of_head noDigit), Fault.unknownToken.inj faultEq,
        Text.isBlank_of_continuesWord firstContinues⟩
  | @brokenNumber d digits later nonempty all wordAfter noDigit =>
      obtain ⟨first, more, rfl⟩ := List.exists_cons_of_ne_nil nonempty
      obtain ⟨rfl, rfl⟩ := List.cons.inj textEq
      have digit := all c List.mem_cons_self
      have notSign : Text.isSign c = false := by simp [Text.isSign, Char.isAlphanum, digit]
      have stops : Text.StopsRun Char.isDigit (d :: later) := Text.stopsRun_cons.mpr noDigit
      have goesOn : ¬ Text.StopsRun Text.isWord (d :: later) := Text.not_stopsRun_cons wordAfter
      refine ⟨?_, Fault.unknownToken.inj faultEq,
        Text.isBlank_of_continuesWord (Text.continuesWord_of_isDigit digit)⟩
      rw [finds_of_isDigit split digit, unknown_none split notSign,
        number_broken fresh split nonempty all stops goesOn]
      rfl

/-- Digits before a broken fraction are found as a number. -/
theorem finds_brokenFraction {digits decimals : Text} (fresh : place.Fresh)
    (split : place.rest = digits ++ '.' :: (decimals ++ c :: rest)) (nonempty : digits ≠ [])
    (all : ∀ d ∈ digits, d.isDigit = true) (nonemptyDecimals : decimals ≠ [])
    (allDecimals : ∀ d ∈ decimals, d.isDigit = true) (wordAfter : Text.isWord c = true)
    (noDigit : c.isDigit = false) :
    firstMatch? rules place = some (numberRule, place.past digits) := by
  have goesOn : ¬ Text.StopsRun Text.isWord (c :: rest) := Text.not_stopsRun_cons wordAfter
  have found := number_brokenFraction fresh split nonempty all rfl nonemptyDecimals allDecimals
    (Text.stopsRun_cons.mpr noDigit) goesOn
  obtain ⟨first, more, rfl⟩ := List.exists_cons_of_ne_nil nonempty
  rw [finds_of_isDigit split (all first List.mem_cons_self), found]
  rfl

end Lexical
