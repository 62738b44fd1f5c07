/-
Module: Lexical.Proofs.RuleOrder
Layer: Proofs
Purpose: What the order of the rules decides. The rules are listed kind by kind, and tried in another order:
  comparisons come forward past the operators, and comments past everything behind the keywords. To move a
  rule forward past others makes a difference exactly where it matches and one of the others matches as well
  (`firstMatch?_move_iff`). A comparison and an operator both match before `!=` only, and a comment begins
  like a division; so no other text tells the two orders apart, and a line without such a text is cut into
  the same segments by both.
Imports: Lexical.Proofs.FirstMatch, Lexical.Proofs.Walk, Lexical.Scanner
Main exports: Grammar.listedRules, Grammar.firstMatch?_move_iff, Grammar.exclusive_comparisonRule_iff,
  Grammar.exclusive_commentRule_iff, Scanner.scanLineBy, Grammar.orders_agree
-/

import Lexical.Proofs.FirstMatch
import Lexical.Proofs.Walk
import Lexical.Scanner

namespace Lexical

namespace Grammar

variable {place : Place}

/-- The rules in the order in which the kinds of lexemes are listed. -/
def listedRules : Grammar :=
  [keywordRule, logicalRule, arithmeticRule, comparisonRule, delimiterRule, assignmentRule, stringRule,
    charRule, identifierRule, numberRule, commentRule, blankRule, unknownRule]

/-! ### Moving a rule forward -/

/-- A rule that is moved forward past others makes a difference exactly where it matches, one of the others
matches too, and no rule in front of them does. -/
theorem firstMatch?_move_iff (before front behind : Grammar) {rule : Rule}
    (unlike : ∀ other ∈ front, other.action ≠ rule.action) (place : Place) :
    firstMatch? (before ++ (front ++ rule :: behind)) place =
        firstMatch? (before ++ rule :: (front ++ behind)) place ↔
      firstMatch? before place ≠ none ∨
        rule.pattern.match? place = none ∨ firstMatch? front place = none := by
  simp only [firstMatch?_append, firstMatch?_cons]
  cases firstMatch? before place with
  | some found => simp
  | none =>
      cases rule.pattern.match? place with
      | none => simp
      | some last =>
          cases passed : firstMatch? front place with
          | none => simp
          | some found =>
              obtain ⟨other, later⟩ := found
              have different : other ≠ rule := fun same =>
                unlike other (mem_of_firstMatch? passed).1 (congrArg Rule.action same)
              simp [different]

/-- A rule for symbols matches where one of them stands. -/
theorem symbols_match?_eq_none_iff {texts : List Text}
    (sorted : texts.Pairwise fun first second => second.utf8Length ≤ first.utf8Length) :
    (Pattern.symbols texts).match? place = none ↔ ∀ symbol ∈ texts, ¬ symbol <+: place.rest := by
  rw [symbols_match?_eq sorted, List.findSome?_eq_none_iff]
  simp only [Place.after?_eq_none_iff]

theorem comparison_eq_none_iff :
    comparisonRule.pattern.match? place = none ↔
      ∀ symbol ∈ comparisonOperators, ¬ symbol <+: place.rest :=
  symbols_match?_eq_none_iff (by decide)

theorem operators_eq_none_iff :
    firstMatch? [logicalRule, arithmeticRule] place = none ↔
      ∀ symbol ∈ logicalOperators ++ arithmeticOperators, ¬ symbol <+: place.rest := by
  have logical : logicalRule.pattern.match? place = none ↔ _ := symbols_match?_eq_none_iff (by decide)
  have arithmetic : arithmeticRule.pattern.match? place = none ↔ _ := symbols_match?_eq_none_iff (by decide)
  simp only [firstMatch?_eq_none_iff, List.forall_mem_cons, List.forall_mem_append, logical, arithmetic]
  simp

/-! ### Which rules match together -/

/-- Of a comparison and an operator one begins with the other in a single case. -/
theorem eq_unequal_of_prefix :
    ∀ comparison ∈ comparisonOperators, ∀ operator ∈ logicalOperators ++ arithmeticOperators,
      comparison <+: operator ∨ operator <+: comparison → comparison = "!=".toList := by
  decide

/-- Comparisons and operators exclude each other but for the one place. -/
theorem exclusive_comparisonRule_iff :
    comparisonRule.pattern.match? place = none ∨ firstMatch? [logicalRule, arithmeticRule] place = none ↔
      ¬ "!=".toList <+: place.rest := by
  rw [comparison_eq_none_iff, operators_eq_none_iff]
  constructor
  · rintro (noComparison | noOperator) stands
    · exact noComparison "!=".toList (by decide) stands
    · exact noOperator "!".toList (by decide) (List.IsPrefix.trans (by decide) stands)
  · intro absent
    by_cases fits : ∃ comparison ∈ comparisonOperators, comparison <+: place.rest
    · obtain ⟨comparison, inComparisons, stands⟩ := fits
      refine Or.inr fun operator inOperators also => absent ?_
      rwa [← eq_unequal_of_prefix comparison inComparisons operator inOperators
        (List.prefix_or_prefix_of_prefix stands also)]
    · exact Or.inl fun comparison member stands => fits ⟨comparison, member, stands⟩

/-- The rules that comments are moved forward past. -/
def passedByComments : Grammar :=
  symbolRules ++ [stringRule, charRule, identifierRule, numberRule]

/-- A comment begins with `//` or with `/*`. -/
theorem comment_none_of_unopened (noLine : ¬ "//".toList <+: place.rest)
    (noBlock : ¬ "/*".toList <+: place.rest) : commentRule.pattern.match? place = none := by
  apply comment_none
  rintro (⟨body, split, -⟩ | ⟨body, rest, split, -⟩)
  · exact noLine ⟨body, split.symm⟩
  · exact noBlock ⟨_, split.symm⟩

theorem comment_none_of_no_slash (noSlash : ¬ ['/'] <+: place.rest) :
    commentRule.pattern.match? place = none :=
  comment_none_of_unopened (fun stands => noSlash (List.IsPrefix.trans ⟨['/'], rfl⟩ stands))
    (fun stands => noSlash (List.IsPrefix.trans ⟨['*'], rfl⟩ stands))

/-- Where a comment matches, so does the division. -/
theorem exclusive_commentRule_iff :
    commentRule.pattern.match? place = none ∨ firstMatch? passedByComments place = none ↔
      commentRule.pattern.match? place = none := by
  refine ⟨fun exclusive => exclusive.elim id fun nothing => ?_, Or.inl⟩
  have noDivision : arithmeticRule.pattern.match? place = none :=
    firstMatch?_eq_none_iff.mp nothing arithmeticRule (by simp [passedByComments, symbolRules])
  exact comment_none_of_no_slash ((symbols_match?_eq_none_iff (by decide)).mp noDivision ['/'] (by decide))

/-! ### The two orders -/

/-- No keyword stands before a character that is not a word character. -/
theorem keywordRule_none_of_prefix {c : Char} (stands : [c] <+: place.rest) (notWord : Text.isWord c = false) :
    firstMatch? [keywordRule] place = none := by
  obtain ⟨rest, split⟩ := stands
  obtain ⟨noKeyword, -, -⟩ := words_none_of_not_isWord split.symm notWord
  rw [firstMatch?_cons, noKeyword]
  rfl

/-- The listed rules with the comparisons moved forward past the operators. -/
def comparisonsForward : Grammar :=
  keywordRule :: (passedByComments ++ [commentRule, blankRule, unknownRule])

/-- Moving the comparisons forward makes a difference before `!=` only. -/
theorem firstMatch?_comparisonsForward_iff :
    firstMatch? listedRules place = firstMatch? comparisonsForward place ↔
      ¬ "!=".toList <+: place.rest := by
  have moved := firstMatch?_move_iff [keywordRule] [logicalRule, arithmeticRule]
    [delimiterRule, assignmentRule, stringRule, charRule, identifierRule, numberRule, commentRule,
      blankRule, unknownRule]
    (by decide : ∀ other ∈ [logicalRule, arithmeticRule], other.action ≠ comparisonRule.action) place
  rw [exclusive_comparisonRule_iff] at moved
  refine moved.trans ⟨fun apart stands => ?_, Or.inr⟩
  have noKeyword : firstMatch? [keywordRule] place = none :=
    keywordRule_none_of_prefix (List.IsPrefix.trans ⟨['='], rfl⟩ stands) (by decide)
  exact apart.elim (· noKeyword) (· stands)

/-- Moving the comments forward makes a difference where a comment matches. -/
theorem firstMatch?_commentsForward_iff :
    firstMatch? comparisonsForward place = firstMatch? rules place ↔
      commentRule.pattern.match? place = none := by
  have moved := firstMatch?_move_iff [keywordRule] passedByComments [blankRule, unknownRule]
    (by decide : ∀ other ∈ passedByComments, other.action ≠ commentRule.action) place
  rw [exclusive_commentRule_iff] at moved
  refine moved.trans ⟨fun apart => apart.elim (fun keyword => ?_) id, Or.inr⟩
  refine comment_none_of_no_slash fun slash => keyword ?_
  exact keywordRule_none_of_prefix slash (by decide)

/-- The two orders find the same but where a comparison or a comment was moved forward past a rule that
matches as well. -/
theorem firstMatch?_listedRules_iff :
    firstMatch? listedRules place = firstMatch? rules place ↔
      ¬ "!=".toList <+: place.rest ∧ commentRule.pattern.match? place = none := by
  rw [← firstMatch?_comparisonsForward_iff, ← firstMatch?_commentsForward_iff]
  refine ⟨fun same => ?_, fun both => both.1.trans both.2⟩
  by_cases unequal : "!=".toList <+: place.rest
  · -- no comment begins here, so that the second move changes nothing and the first one nothing either
    have noSlash : ¬ ['/'] <+: place.rest := fun slash =>
      absurd (List.prefix_or_prefix_of_prefix slash unequal) (by decide)
    have second := firstMatch?_commentsForward_iff.mpr (comment_none_of_no_slash noSlash)
    exact ⟨same.trans second.symm, second⟩
  · have first := firstMatch?_comparisonsForward_iff.mpr unequal
    exact ⟨first, first.symm.trans same⟩

/-! ### Whole lines -/

/-- Grammars that find the same at every place of a line read it alike. -/
theorem read_congr {grammar other : Grammar} {line : Text}
    (agree : ∀ place : Place, place.rest <:+ line → grammar.firstMatch? place = other.firstMatch? place) :
    grammar.read line = other.read line :=
  congrArg readSegments (segments_congr agree)

/-- A line without `!=` and without the beginning of a comment is read alike in both orders. -/
theorem read_listedRules {line : Text} (noUnequal : ¬ "!=".toList <:+: line)
    (noLineComment : ¬ "//".toList <:+: line) (noBlockComment : ¬ "/*".toList <:+: line) :
    listedRules.read line = readLine line := by
  have absent {text : Text} (nowhere : ¬ text <:+: line) {place : Place} (within : place.rest <:+ line) :
      ¬ text <+: place.rest := fun stands => nowhere (stands.isInfix.trans within.isInfix)
  refine read_congr fun place within => firstMatch?_listedRules_iff.mpr ⟨absent noUnequal within, ?_⟩
  exact comment_none_of_unopened (absent noLineComment within) (absent noBlockComment within)

end Grammar

namespace Scanner

/-- Scans the next line by the rules of a grammar. -/
def scanLineBy (grammar : Grammar) (scanner : Scanner) (text : Text) : Step :=
  let line := scanner.line + 1
  let reading := grammar.read text
  let added := reading.lexemes.map (·.toToken line)
  { scanner := { line, table := scanner.table.append added }
    added
    error? := reading.misreading?.map (·.toError line) }

/-- A line is scanned by the rules of the language. -/
theorem scanLineBy_rules : scanLineBy Grammar.rules = scanLine := rfl

end Scanner

/-- The order in which the rules are tried differs from the order in which they are listed where it is meant
to, and nowhere else: at a place the same rule comes first, with the same match, unless the text there begins
with `!=` or a comment matches there; and then it does not. A line that has none of `!=`, `//` and `/*`
in it is therefore scanned alike in both orders, with the same tokens or the same error. -/
theorem Grammar.orders_agree :
    (∀ place : Place,
        listedRules.firstMatch? place = rules.firstMatch? place ↔
          ¬ "!=".toList <+: place.rest ∧ commentRule.pattern.match? place = none) ∧
      ∀ (scanner : Scanner) (line : Text),
        ¬ "!=".toList <:+: line → ¬ "//".toList <:+: line → ¬ "/*".toList <:+: line →
          scanner.scanLineBy listedRules line = scanner.scanLine line := by
  refine ⟨fun place => firstMatch?_listedRules_iff, fun scanner line noUnequal noLine noBlock => ?_⟩
  have same : listedRules.read line = rules.read line := read_listedRules noUnequal noLine noBlock
  rw [← Scanner.scanLineBy_rules, Scanner.scanLineBy, same, Scanner.scanLineBy]

/-- The orders differ before `!=`; a negation, a comparison and a division in one line are read alike. -/
theorem Grammar.orders_agree_beside_operators :
    listedRules.firstMatch? (Place.start "!= 1".toList) ≠ rules.firstMatch? (Place.start "!= 1".toList) ∧
      Scanner.start.scanLineBy listedRules "x = !y <= 1 / *p;".toList =
        Scanner.start.scanLine "x = !y <= 1 / *p;".toList :=
  ⟨fun same => ((orders_agree.1 _).mp same).1 (by decide),
    orders_agree.2 Scanner.start "x = !y <= 1 / *p;".toList (by simp [List.infix_cons_iff])
      (by simp [List.infix_cons_iff]) (by simp [List.infix_cons_iff])⟩

end Lexical
