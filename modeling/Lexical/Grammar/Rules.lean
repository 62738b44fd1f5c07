/-
Module: Lexical.Grammar.Rules
Layer: Grammar
Purpose: The rules of the language. At each place the first rule that matches wins. Comments therefore
  stand before the arithmetic operators, and comparisons before the logical operators, so that `//`, `/*`
  and `!=` are not split after their first character; and keywords stand before identifiers. The fixed words
  and symbols are listed in the order in which the grammar is published; which symbol is tried first is
  decided by its length.
Imports: Lexical.Grammar.Rule
Main exports: Grammar.keywords, Grammar.logicalOperators, Grammar.arithmeticOperators,
  Grammar.comparisonOperators, Grammar.delimiters, Grammar.assignments, Grammar.commentPattern,
  Grammar.quotedPattern, Grammar.identifierPattern, Grammar.numberPattern, Grammar.blankPattern,
  Grammar.unknownPattern, one Rule for each, Grammar.rules
-/

import Lexical.Grammar.Rule

namespace Lexical.Grammar

/-! ### Words and symbols -/

/-- The reserved words. -/
def keywords : List Text :=
  ["void".toList, "int".toList, "if".toList, "else".toList, "for".toList, "while".toList,
    "return".toList, "main".toList, "printf".toList, "double".toList, "float".toList, "char".toList,
    "case".toList, "default".toList, "switch".toList]

/-- The operators on truth values. -/
def logicalOperators : List Text :=
  ["&&".toList, "||".toList, "!".toList]

/-- The operators on numbers. -/
def arithmeticOperators : List Text :=
  ["+".toList, "-".toList, "*".toList, "/".toList, "%".toList]

/-- The comparisons. -/
def comparisonOperators : List Text :=
  [">=".toList, "<=".toList, "==".toList, "!=".toList, ">".toList, "<".toList]

/-- The brackets and the marks that separate. -/
def delimiters : List Text :=
  [['('], [')'], ['{'], ['}'], [';'], [','], [':']]

/-- The assignment sign. -/
def assignments : List Text :=
  [['=']]

/-! ### Rules -/

/-- The decimal digits. -/
def digitClass : CharClass :=
  .oneOf [.range '0' '9']

/-- The characters that a word can begin with. -/
def wordStartClass : CharClass :=
  .oneOf [.range 'a' 'z', .range 'A' 'Z', .char '_']

/-- The characters that a word can go on with. -/
def wordPartClass : CharClass :=
  .oneOf [.range 'a' 'z', .range 'A' 'Z', .range '0' '9', .char '_']

/-- The characters that are neither letters nor digits nor blank. -/
def signClass : CharClass :=
  .noneOf [.range 'a' 'z', .range 'A' 'Z', .range '0' '9', .blank]

/-- A comment within one line: from two slashes to the end of the text, if the text has no line feed after
them, or from `/*` to the nearest `*/`. -/
def commentPattern : Pattern :=
  .alt (.seq (.literal "//".toList) (.seq (.many .notLineFeed .longest) .textEnd))
    (.seq (.literal "/*".toList)
      (.seq (.many .notLineFeed .shortest) (.literal "*/".toList)))

/-- A text between one quotation mark and the next, on one line. -/
def quotedPattern (mark : Char) : Pattern :=
  .seq (.literal [mark]) (.seq (.group (.many .notLineFeed .shortest)) (.literal [mark]))

/-- A letter or an underscore, and then any letters, underscores and digits. -/
def identifierPattern : Pattern :=
  .seq .wordBoundary
    (.seq (.one wordStartClass) (.seq (.many wordPartClass .longest) .wordBoundary))

/-- Digits, and behind them a fraction if there is one. -/
def numberPattern : Pattern :=
  .seq .wordBoundary
    (.seq (.many1 digitClass)
      (.seq (.optional (.group (.seq (.literal ['.']) (.many1 digitClass)))) .wordBoundary))

/-- A text that is blank from its start to its end. -/
def blankPattern : Pattern :=
  .seq .textStart (.seq (.many .blank .longest) .textEnd)

/-- A run of characters that are neither letters nor digits nor blank. -/
def unknownPattern : Pattern :=
  .many1 signClass

/-- Keywords, as whole words. -/
def keywordRule : Rule :=
  .ofWords "kw".toList keywords (.emit .keyword)

/-- Comments, which give no token. -/
def commentRule : Rule :=
  .ofPattern "comment".toList commentPattern .skip

/-- Comparisons. -/
def comparisonRule : Rule :=
  .ofSymbols "comp_op".toList comparisonOperators (.emit .comparisonOperator)

/-- Operators on truth values. -/
def logicalRule : Rule :=
  .ofSymbols "log_op".toList logicalOperators (.emit .logicalOperator)

/-- Operators on numbers. -/
def arithmeticRule : Rule :=
  .ofSymbols "arith_op".toList arithmeticOperators (.emit .arithmeticOperator)

/-- Brackets and marks that separate. -/
def delimiterRule : Rule :=
  .ofSymbols "delim".toList delimiters (.emit .delimiter)

/-- The assignment sign. -/
def assignmentRule : Rule :=
  .ofSymbols "assign".toList assignments (.emit .assignment)

/-- Texts between quotation marks. -/
def stringRule : Rule :=
  .ofPattern "string".toList (quotedPattern '"') (.emit .string)

/-- Texts between apostrophes. How long they may be is no matter of the grammar. -/
def charRule : Rule :=
  .ofPattern "char".toList (quotedPattern '\'') (.emit .char)

/-- Names. -/
def identifierRule : Rule :=
  .ofPattern "id".toList identifierPattern (.emit .identifier)

/-- Numbers. -/
def numberRule : Rule :=
  .ofPattern "number".toList numberPattern (.emit .number)

/-- Blank texts, which give no token. -/
def blankRule : Rule :=
  .ofPattern "blank".toList blankPattern .skip

/-- What no other rule wants. -/
def unknownRule : Rule :=
  .ofPattern "unknown".toList unknownPattern (.emit .unknown)

/-- The rules in their order. -/
def rules : Grammar :=
  [ keywordRule, commentRule, comparisonRule, logicalRule, arithmeticRule, delimiterRule,
    assignmentRule, stringRule, charRule, identifierRule, numberRule, blankRule, unknownRule ]

end Lexical.Grammar
