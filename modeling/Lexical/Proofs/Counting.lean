/-
Module: Lexical.Proofs.Counting
Layer: Proofs
Purpose: Tokens counted by a feature: by their category, as a report does, or by their line, as a log does. If
  the values at which they are counted hold the feature of every token and none of them twice, every token is
  counted once, and the counts add up to the size of the table (`Table.sum_countP_eq_size`).
Imports: Lexical.Proofs.Layout, Mathlib.Algebra.GroupWithZero.Nat
Main exports: Table.sum_countP_eq_size, Table.sum_count, Table.sizeOn, Table.sizeOn_eq_length,
  Table.sum_sizeOn
-/

import Lexical.Proofs.Layout
import Mathlib.Algebra.GroupWithZero.Nat

namespace Lexical.Table

/-- One more token is counted once for every time that its feature is among the values. -/
private theorem sum_countP_cons {α : Type} [DecidableEq α] (feature : Token → α) (token : Token)
    (tokens : List Token) (values : List α) :
    (values.map fun value => (token :: tokens).countP (feature · = value)).sum =
      (values.map fun value => tokens.countP (feature · = value)).sum + values.count (feature token) := by
  induction values with
  | nil => rfl
  | cons value values ih =>
      have once : decide (feature token = value) = (value == feature token) :=
        decide_eq_decide.mpr eq_comm
      rw [List.map_cons, List.sum_cons, ih, List.map_cons, List.sum_cons, List.countP_cons,
        List.count_cons, once]
      omega

/-- Where the values hold the feature of every token and none of them twice, the numbers of tokens with each of
them add up to the size of the table. -/
theorem sum_countP_eq_size {α : Type} [DecidableEq α] (table : Table) (feature : Token → α)
    {values : List α} (nodup : values.Nodup) (covered : ∀ token ∈ table.tokens, feature token ∈ values) :
    (values.map fun value => table.tokens.countP (feature · = value)).sum = table.size := by
  rw [size_eq_length]
  generalize table.tokens = tokens at covered ⊢
  induction tokens with
  | nil => simp [List.map_const']
  | cons token tokens ih =>
      obtain ⟨here, further⟩ := List.forall_mem_cons.mp covered
      rw [sum_countP_cons, ih further, nodup.count, if_pos here, List.length_cons]

/-- The categories share all tokens among them. -/
theorem sum_count (table : Table) : (Category.all.map table.count).sum = table.size :=
  table.sum_countP_eq_size Token.category Category.nodup_all fun _ _ => Category.mem_all _

/-- The number of tokens on the line with the given number. -/
def sizeOn (table : Table) (number : Nat) : Nat :=
  table.tokens.countP (·.position.line = number)

theorem sizeOn_eq_length (table : Table) (number : Nat) :
    table.sizeOn number = (table.lexemesOn number).length := by
  rw [sizeOn, lexemesOn, List.length_map, List.countP_eq_length_filter]

/-- Where no token stands below the given number of lines, the lines share all tokens among them. -/
theorem sum_sizeOn {table : Table} {readings : List Reading} (tokens : table.tokens = tokensFrom 1 readings) :
    ((List.range' 1 readings.length).map table.sizeOn).sum = table.size := by
  refine table.sum_countP_eq_size (·.position.line) List.nodup_range' fun token member => ?_
  rw [tokens] at member
  obtain ⟨index, reading, lexeme, isReading, -, rfl⟩ := mem_tokensFrom.mp member
  obtain ⟨inside, -⟩ := List.getElem?_eq_some_iff.mp isReading
  simp only [Lexeme.toToken, List.mem_range'_1]
  omega

end Lexical.Table
