/-
Module: Lexical.Proofs.Charts
Layer: Proofs
Purpose: What a report counts and what its chart shows. The counts of all categories add up to the size of the
  table, since every token has one category and the report lists each category once. A bar is a share of the
  full width, rounded down but never to nothing: so it is empty only for a count of zero, full for the largest
  count, and never longer than that of a larger count. The chart is read off line by line, one for each
  category, in which the bar stands between the code and the count.
Imports: Lexical.Proofs.Counting, Lexical.Proofs.ReportTexts
Main exports: barLength_le, barLength_eq_zero_iff, barLength_self, barLength_mono, Report.largest_le_iff,
  Report.count_ofTable, Report.lines_flatMap_asLine, Report.lines_chart, Report.counts_and_bars
-/

import Lexical.Proofs.Counting
import Lexical.Proofs.ReportTexts

namespace Lexical

/-! ### Bars -/

section Bars

variable {count other largest : Nat}

theorem barLength_of_pos (positive : 0 < count) (atMost : count ≤ largest) :
    barLength count largest = max 1 (count * fullBarLength / largest) := by
  rw [barLength, if_neg]
  omega

/-- Only a count of zero has no bar. -/
theorem barLength_eq_zero_iff (atMost : count ≤ largest) : barLength count largest = 0 ↔ count = 0 := by
  rcases Nat.eq_zero_or_pos count with rfl | positive
  · simp [barLength]
  · rw [barLength_of_pos positive atMost]
    omega

/-- No bar is wider than the full width. -/
theorem barLength_le (atMost : count ≤ largest) : barLength count largest ≤ fullBarLength := by
  rcases Nat.eq_zero_or_pos count with rfl | positive
  · simp [barLength]
  · have share : count * fullBarLength / largest ≤ fullBarLength := by
      apply Nat.div_le_of_le_mul
      exact Nat.mul_le_mul_right fullBarLength atMost
    have oneFits : 1 ≤ fullBarLength := by decide
    rw [barLength_of_pos positive atMost]
    exact Nat.max_le.mpr ⟨oneFits, share⟩

/-- The bar of the largest count has the full width. -/
theorem barLength_self (positive : 0 < largest) : barLength largest largest = fullBarLength := by
  rw [barLength_of_pos positive (Nat.le_refl _), Nat.mul_div_cancel_left _ positive]
  rfl

/-- A smaller count never has a longer bar. -/
theorem barLength_mono (less : other ≤ count) (atMost : count ≤ largest) :
    barLength other largest ≤ barLength count largest := by
  rcases Nat.eq_zero_or_pos other with rfl | positive
  · simp [barLength]
  · have shares : other * fullBarLength / largest ≤ count * fullBarLength / largest :=
      Nat.div_le_div_right (Nat.mul_le_mul_right fullBarLength less)
    rw [barLength_of_pos positive (Nat.le_trans less atMost),
      barLength_of_pos (Nat.lt_of_lt_of_le positive less) atMost]
    omega

example : (barLength 4 4, barLength 1 4, barLength 1 1000, barLength 0 4) = (40, 10, 1, 0) := by
  decide

end Bars

/-! ### Counts -/

namespace Report

/-- The report has every category's number of tokens. -/
theorem count_ofTable (table : Table) (category : Category) :
    (ofTable table).count category = table.count category := by
  cases category <;> rfl

theorem counts_ofTable (table : Table) :
    (ofTable table).counts = Category.all.map fun category => (category, (ofTable table).count category) := by
  simp only [count_ofTable]
  rfl

/-- The counts add up to the number of tokens. -/
theorem sum_count_ofTable (table : Table) :
    (Category.all.map (ofTable table).count).sum = table.size := by
  rw [← table.sum_count]
  exact congrArg List.sum (List.map_congr_left fun category _ => count_ofTable table category)

theorem total_ofTable (table : Table) : (ofTable table).total = table.size := by
  rw [total, ← List.sum_eq_foldl_nat, counts_ofTable, List.map_map, ← sum_count_ofTable]
  rfl

/-- The largest count is bounded by what bounds all of them. -/
theorem largest_le_iff {report : Report} {bound : Nat} :
    report.largest ≤ bound ↔ ∀ entry ∈ report.counts, entry.2 ≤ bound := by
  have folded (numbers : List Nat) (start : Nat) :
      numbers.foldl max start ≤ bound ↔ start ≤ bound ∧ ∀ number ∈ numbers, number ≤ bound := by
    induction numbers generalizing start with
    | nil => simp
    | cons number numbers ih => rw [List.foldl_cons, ih, Nat.max_le, List.forall_mem_cons, and_assoc]
  rw [largest, folded, List.forall_mem_map]
  simp

theorem largest_ofTable_le_iff {table : Table} {bound : Nat} :
    (ofTable table).largest ≤ bound ↔ ∀ category, (ofTable table).count category ≤ bound := by
  rw [largest_le_iff, counts_ofTable, List.forall_mem_map]
  exact ⟨fun all category => all category (Category.mem_all category), fun all category _ => all category⟩

theorem count_le_largest (table : Table) (category : Category) :
    (ofTable table).count category ≤ (ofTable table).largest :=
  largest_ofTable_le_iff.mp (Nat.le_refl _) category

/-! ### The lines of a chart -/

/-- Rows that hold neither a line feed nor a carriage return are the lines of the text that shows each of them
as a line. -/
theorem lines_flatMap_asLine {rows : List Text} (oneLine : ∀ row ∈ rows, '\n' ∉ row)
    (noReturn : ∀ row ∈ rows, '\r' ∉ row) : Text.lines (rows.flatMap asLine) = rows := by
  have kept : rows.map Text.dropReturn = rows := by
    have same : rows.map Text.dropReturn = rows.map id := by
      refine List.map_congr_left fun row member => ?_
      rw [Text.dropReturn, if_neg fun last => noReturn row member (List.mem_of_getLast? last)]
      rfl
    rwa [List.map_id] at same
  rw [Text.lines, splitOn_flatMap_asLine oneLine, List.dropLast_concat, List.getLast?_concat, kept]
  simp

/-- The row of a chart for a category: its code, a bar of the given length and its count. -/
def chartRow (category : Category) (bar count : Nat) : Text :=
  category.code ++ " | ".toList ++ List.replicate bar '#' ++ ' ' :: Text.ofNat count

/-- A row of a chart is made of letters, digits, spaces, and the signs for bars and their start. -/
theorem not_mem_chartRow {c : Char} (noDigit : c.isDigit = false) (noMark : c ≠ '#')
    (noCode : ∀ category ∈ Category.all, c ∉ category.code ++ " | ".toList) (category : Category)
    (bar count : Nat) : c ∉ chartRow category bar count := by
  have notBefore := noCode category (Category.mem_all category)
  have noSpace : c ≠ ' ' := fun same => notBefore (by simp [same])
  rw [chartRow, List.mem_append, List.mem_append, List.mem_replicate, List.mem_cons, not_or, not_or, not_or]
  exact ⟨⟨notBefore, fun mark => noMark mark.2⟩, noSpace, Text.not_mem_ofNat noDigit count⟩

/-- The lines of the chart of a table are the rows of the categories, in the order of reports. -/
theorem lines_chart (table : Table) :
    let report := ofTable table
    report.chart.lines = Category.all.map fun category =>
      chartRow category (barLength (report.count category) report.largest) (report.count category) := by
  intro report
  have rows : report.chart =
      (Category.all.map fun category =>
        chartRow category (barLength (report.count category) report.largest) (report.count category)).flatMap
          asLine := by
    rw [chart, counts_ofTable, List.flatMap_map, List.flatMap_map]
    rfl
  rw [rows]
  refine lines_flatMap_asLine (List.forall_mem_map.mpr fun category _ => ?_)
    (List.forall_mem_map.mpr fun category _ => ?_)
  · exact not_mem_chartRow (by decide) (by decide) (by decide) category _ _
  · exact not_mem_chartRow (by decide) (by decide) (by decide) category _ _

/-- What a report says of its table. The count of a category is the number of its tokens, and the counts add up
to the size of the table. The chart has one line for each category, with its code, a bar and its count. The
bar is empty exactly for a count of zero, has at most 40 marks and exactly 40 for the largest count unless
this is zero, and a count that is not larger has no longer bar. -/
theorem counts_and_bars (table : Table) :
    let report := ofTable table
    (∀ category, report.count category = (table.tokens.filter (·.category = category)).length) ∧
      (Category.all.map report.count).sum = table.size ∧ report.total = table.size ∧
      ∃ bar : Category → Nat,
        (report.chart.lines = Category.all.map fun category =>
          category.code ++ " | ".toList ++ List.replicate (bar category) '#' ++
            ' ' :: Text.ofNat (report.count category)) ∧
        ∀ category,
          (bar category = 0 ↔ report.count category = 0) ∧ bar category ≤ 40 ∧
            (report.count category ≠ 0 → (∀ other, report.count other ≤ report.count category) →
              bar category = 40) ∧
            ∀ other, report.count other ≤ report.count category → bar other ≤ bar category := by
  intro report
  have atMost := count_le_largest table
  refine ⟨fun category => ?_, sum_count_ofTable table, total_ofTable table,
    fun category => barLength (report.count category) report.largest, lines_chart table,
    fun category => ⟨barLength_eq_zero_iff (atMost category), barLength_le (atMost category),
      fun nonzero isLargest => ?_, fun other less => barLength_mono less (atMost category)⟩⟩
  · rw [count_ofTable, Table.count, List.countP_eq_length_filter]
  · have largest : report.largest = report.count category :=
      Nat.le_antisymm (largest_ofTable_le_iff.mpr isLargest) (atMost category)
    rw [largest]
    exact barLength_self (Nat.pos_of_ne_zero nonzero)

end Report

end Lexical
