/-
Module: Lexical.Report
Layer: Report
Purpose: The report on a table: how often each category occurs, a chart of these numbers, and the list of
  all tokens. Every category is listed, also one that does not occur. The bars of the chart are scaled so
  that the most frequent category has a bar of full width, and a category that occurs at all has a bar.
Imports: Lexical.Token
Main exports: Report, Report.ofTable, Report.count, Report.total, barLength, Report.chart,
  Report.tokenList, Report.text
-/

import Lexical.Token

namespace Lexical

/-- A report on a table. -/
structure Report where
  /-- How often each category occurs, in the order of the categories. -/
  counts : List (Category × Nat)
  /-- The tokens of the table. -/
  tokens : List Token
deriving DecidableEq, Repr

/-- The width of the longest bar. -/
def fullBarLength : Nat := 40

/-- The length of the bar for a count, where `largest` is the largest count of the chart. -/
def barLength (count largest : Nat) : Nat :=
  if count = 0 ∨ largest = 0 then 0 else max 1 (count * fullBarLength / largest)

namespace Report

/-- The report on a table. -/
def ofTable (table : Table) : Report :=
  { counts := Category.all.map fun category => (category, table.count category)
    tokens := table.tokens }

/-- How often the report says that a category occurs. -/
def count (report : Report) (category : Category) : Nat :=
  (report.counts.lookup category).getD 0

/-- The sum of all counts. -/
def total (report : Report) : Nat :=
  (report.counts.map Prod.snd).foldl (· + ·) 0

/-- The largest count. -/
def largest (report : Report) : Nat :=
  (report.counts.map Prod.snd).foldl max 0

/-- A text as a line of its own. -/
def asLine (text : Text) : Text :=
  text ++ ['\n']

/-- The lines that name each category and its count. -/
def frequencies (report : Report) : Text :=
  report.counts.flatMap fun (category, count) =>
    asLine (category.code ++ ": ".toList ++ Text.ofNat count)

/-- The chart: for each category its code, its bar and its count. -/
def chart (report : Report) : Text :=
  report.counts.flatMap fun (category, count) =>
    asLine (category.code ++ " | ".toList ++
      List.replicate (barLength count report.largest) '#' ++ ' ' :: Text.ofNat count)

/-- The tokens, each on a line of its own. -/
def tokenList (report : Report) : Text :=
  report.tokens.flatMap fun token => asLine token.text

/-- The whole report. -/
def text (report : Report) : Text :=
  asLine "Lexical analysis results:".toList ++ asLine [] ++
    asLine "Token frequency:".toList ++ report.frequencies ++ asLine [] ++
    asLine ("Total tokens: ".toList ++ Text.ofNat report.total) ++ asLine [] ++
    report.chart ++ asLine [] ++
    asLine "Token list:".toList ++ report.tokenList

end Report

end Lexical
