/-
Module: Lexical.Proofs.ReportTexts
Layer: Proofs
Purpose: A report loses nothing of its table. Literals are shown as they are, but no token holds a line feed,
  so the rows of the token list can be told apart; and in a row the position, the code and the literal can
  be told apart, since a numeral ends where no digit follows and all codes are of one length. Above the
  token list a report always has the same number of rows.
Imports: Lexical.Proofs.Spelling, Lexical.Report
Main exports: Text.ofNat_append_inj, Token.text_injective, Report.splitOn_flatMap_asLine,
  Report.flatMap_asLine_inj, Report.header, Report.text_eq_rows, Scanner.report_determines_table
-/

import Lexical.Proofs.Spelling
import Lexical.Report

namespace Lexical

/-! ### Rows of the token list -/

/-- A numeral ends where no digit follows. -/
theorem Text.ofNat_append_inj {first second : Nat} {rest later : Text} (ends : rest.StopsRun Char.isDigit)
    (endsLater : later.StopsRun Char.isDigit) (same : ofNat first ++ rest = ofNat second ++ later) :
    first = second ∧ rest = later := by
  have numerals := congrArg (List.takeWhile Char.isDigit) same
  rw [takeWhile_run (fun _ => isDigit_of_mem_ofNat) ends,
    takeWhile_run (fun _ => isDigit_of_mem_ofNat) endsLater] at numerals
  obtain rfl := ofNat_injective numerals
  exact ⟨rfl, List.append_cancel_left same⟩

/-- A row of the token list shows which token it is, whatever its literal. -/
theorem Token.text_injective {first second : Token} (same : first.text = second.text) : first = second := by
  obtain ⟨category, literal, line, column⟩ := first
  obtain ⟨otherCategory, otherLiteral, otherLine, otherColumn⟩ := second
  simp only [text, List.append_assoc, List.cons.injEq, true_and] at same
  have comma : ∀ behind : Text, Text.StopsRun Char.isDigit (',' :: behind) := fun _ =>
    Text.stopsRun_cons.mpr rfl
  have bracket : ∀ behind : Text, Text.StopsRun Char.isDigit ("] ".toList ++ behind) := fun _ =>
    Text.stopsRun_cons.mpr rfl
  obtain ⟨rfl, behindLine⟩ := Text.ofNat_append_inj (comma _) (comma _) same
  rw [List.cons_inj_right] at behindLine
  obtain ⟨rfl, behindColumn⟩ := Text.ofNat_append_inj (bracket _) (bracket _) behindLine
  have codes := List.append_cancel_left behindColumn
  obtain ⟨sameCode, behindCode⟩ :=
    List.append_inj codes (by rw [Category.length_code, Category.length_code])
  obtain rfl := Category.code_injective sameCode
  obtain rfl := List.append_cancel_left behindCode
  rfl

theorem Category.oneLine_code (category : Category) : '\n' ∉ category.code := by
  cases category <;> decide

theorem Text.oneLine_ofNat (n : Nat) : '\n' ∉ ofNat n :=
  not_mem_ofNat (by decide) n

/-- Apart from its literal a token is shown without a line feed. -/
theorem Token.oneLine_text {token : Token} (oneLine : '\n' ∉ token.literal) : '\n' ∉ token.text := by
  simp [text, oneLine, Category.oneLine_code, Text.oneLine_ofNat]

namespace Report

/-- Rows without a line feed are the stretches of the text that shows each of them as a line, and behind the
last one nothing is left. -/
theorem splitOn_flatMap_asLine {rows : List Text} (oneLine : ∀ row ∈ rows, '\n' ∉ row) :
    List.splitOn '\n' (rows.flatMap asLine) = rows ++ [[]] := by
  have whole : Text.joined ['\n'] (rows ++ [[]]) = rows.flatMap asLine := by
    rw [Text.joined_append _ (List.cons_ne_nil _ _), Text.joined_singleton, List.append_nil]
    rfl
  rw [← whole]
  refine List.splitOn_intercalate '\n' (List.forall_mem_append.mpr ⟨oneLine, ?_⟩) (by simp)
  exact List.forall_mem_singleton.mpr List.not_mem_nil

theorem flatMap_asLine_inj {rows others : List Text} (oneLine : ∀ row ∈ rows, '\n' ∉ row)
    (oneLineOthers : ∀ row ∈ others, '\n' ∉ row) (same : rows.flatMap asLine = others.flatMap asLine) :
    rows = others := by
  have stretches := congrArg (List.splitOn '\n') same
  rw [splitOn_flatMap_asLine oneLine, splitOn_flatMap_asLine oneLineOthers] at stretches
  exact List.append_cancel_right stretches

/-! ### Rows above the token list -/

/-- The rows of a report above its token list. -/
def header (report : Report) : List Text :=
  ["Lexical analysis results:".toList, [], "Token frequency:".toList] ++
    report.counts.map (fun (category, count) => category.code ++ ": ".toList ++ Text.ofNat count) ++
    [[], "Total tokens: ".toList ++ Text.ofNat report.total, []] ++
    report.counts.map (fun (category, count) =>
      category.code ++ " | ".toList ++ List.replicate (barLength count report.largest) '#' ++
        ' ' :: Text.ofNat count) ++
    [[], "Token list:".toList]

theorem length_header (report : Report) : report.header.length = 2 * report.counts.length + 8 := by
  simp [header]
  omega

theorem oneLine_header (report : Report) : ∀ row ∈ report.header, '\n' ∉ row := by
  simp only [header, List.forall_mem_append, List.forall_mem_map]
  refine ⟨⟨⟨⟨by decide, fun entry _ => ?_⟩, ?_⟩, fun entry _ => ?_⟩, by decide⟩
  · simp [Category.oneLine_code, Text.oneLine_ofNat]
  · simp [Text.oneLine_ofNat]
  · simp [Category.oneLine_code, Text.oneLine_ofNat]

/-- A report is its rows, each on a line of its own. -/
theorem text_eq_rows (report : Report) :
    report.text = (report.header ++ report.tokens.map Token.text).flatMap asLine := by
  simp [text, header, frequencies, chart, tokenList, List.flatMap_map]

theorem tokenList_eq_rows (report : Report) :
    report.tokenList = (report.tokens.map Token.text).flatMap asLine := by
  simp [tokenList, List.flatMap_map]

end Report

/-! ### Tables of sessions -/

namespace Scanner

/-- The token list shows every token of a session as one row. -/
theorem oneLine_rows (lines : List Text) :
    ∀ row ∈ (start.after lines).table.tokens.map Token.text, '\n' ∉ row := by
  rw [List.forall_mem_map]
  intro token member
  exact Token.oneLine_text (forced_of_mem_after member).oneLine

/-- A report loses nothing: sessions have the same token list only if they have the same table, and the same
report only if they have the same table. -/
theorem report_determines_table (lines others : List Text) :
    let first := (start.after lines).table
    let second := (start.after others).table
    ((Report.ofTable first).tokenList = (Report.ofTable second).tokenList ↔ first = second) ∧
      ((Report.ofTable first).text = (Report.ofTable second).text ↔ first = second) := by
  intro first second
  have rows := oneLine_rows lines
  have otherRows := oneLine_rows others
  have table_eq (same : first.tokens.map Token.text = second.tokens.map Token.text) : first = second :=
    Table.eq_of_tokens_eq ((List.map_inj_right fun _ _ => Token.text_injective).mp same)
  refine ⟨⟨fun same => ?_, fun same => by rw [same]⟩, ⟨fun same => ?_, fun same => by rw [same]⟩⟩
  · rw [Report.tokenList_eq_rows, Report.tokenList_eq_rows] at same
    exact table_eq (Report.flatMap_asLine_inj rows otherRows same)
  · rw [Report.text_eq_rows, Report.text_eq_rows] at same
    have whole := Report.flatMap_asLine_inj
      (List.forall_mem_append.mpr ⟨(Report.ofTable first).oneLine_header, rows⟩)
      (List.forall_mem_append.mpr ⟨(Report.ofTable second).oneLine_header, otherRows⟩) same
    have sameHeight : (Report.ofTable first).header.length = (Report.ofTable second).header.length := by
      rw [Report.length_header, Report.length_header]
      rfl
    exact table_eq (List.append_inj_right whole sameHeight)

end Scanner

end Lexical
