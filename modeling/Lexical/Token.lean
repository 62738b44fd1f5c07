/-
Module: Lexical.Token
Layer: Grammar
Purpose: What scanning gives: tokens, each a piece of the source with its category and its position, in a
  table. The order of the categories is the order in which reports list them. Lines and columns are counted
  from one. The table only grows, and only at its end; `tokens` is what it holds, and each operation is
  described by what it does to that list.
Imports: Lexical.Text.Basic
Main exports: Category, Category.all, Category.code, Category.name, Category.named?, Category.sorted,
  Position, Position.text, Position.precedes, Position.sorted, Token, Token.text, Table, Table.tokens,
  Table.empty, Table.append, Table.size, Table.count, Table.get
-/

import Lexical.Text.Basic

namespace Lexical

/-! ### Categories -/

/-- What kind of thing a token is. -/
inductive Category where
  | keyword
  | logicalOperator
  | arithmeticOperator
  | comparisonOperator
  | delimiter
  | identifier
  | assignment
  | number
  /-- Characters that belong to no lexeme. A scan that meets them fails, so no token has this category. -/
  | unknown
  | char
  | string
deriving DecidableEq, Repr

namespace Category

/-- Every category, in the order of reports. -/
def all : List Category :=
  [.keyword, .logicalOperator, .arithmeticOperator, .comparisonOperator, .delimiter, .identifier,
    .assignment, .number, .unknown, .char, .string]

/-- No category is missing from the list of all of them. -/
theorem mem_all (category : Category) : category ∈ all := by
  cases category <;> decide

/-- No category is listed twice. -/
theorem nodup_all : all.Nodup := by
  decide

/-- The two-letter code that stands for the category in reports. -/
def code : Category → Text
  | .keyword => "PR".toList
  | .logicalOperator => "OL".toList
  | .arithmeticOperator => "OA".toList
  | .comparisonOperator => "OC".toList
  | .delimiter => "DL".toList
  | .identifier => "ID".toList
  | .assignment => "AS".toList
  | .number => "NU".toList
  | .unknown => "UK".toList
  | .char => "CT".toList
  | .string => "ST".toList

/-- Every code has two letters. -/
theorem length_code (category : Category) : category.code.length = 2 := by
  cases category <;> rfl

/-- No two categories have the same code. -/
theorem code_injective {first second : Category} (same : first.code = second.code) : first = second := by
  have apart : ∀ first ∈ all, ∀ second ∈ all, first.code = second.code → first = second := by decide
  exact apart first (mem_all first) second (mem_all second) same

/-- The name of the category in full. -/
def name : Category → Text
  | .keyword => "Keyword".toList
  | .logicalOperator => "LogicalOperator".toList
  | .arithmeticOperator => "ArithmeticOperator".toList
  | .comparisonOperator => "ComparisonOperator".toList
  | .delimiter => "Delimiter".toList
  | .identifier => "Identifier".toList
  | .assignment => "Assignment".toList
  | .number => "Number".toList
  | .unknown => "Unknown".toList
  | .char => "Char".toList
  | .string => "String".toList

/-- The category with the given name. -/
def named? (text : Text) : Option Category :=
  all.find? (·.name == text)

/-- The place of the category in the order of reports, counted from zero. -/
def rank (category : Category) : Nat :=
  all.idxOf category

/-- The categories in the order of reports. -/
def sorted (categories : List Category) : List Category :=
  categories.mergeSort fun first second => first.rank ≤ second.rank

end Category

/-! ### Positions -/

/-- Where something begins in a source. -/
structure Position where
  /-- The number of the line. -/
  line : Nat
  /-- The number of the character in its line. -/
  column : Nat
deriving DecidableEq, Repr

namespace Position

/-- The position as messages name it. -/
def text (position : Position) : Text :=
  "line ".toList ++ Text.ofNat position.line ++ ", column ".toList ++ Text.ofNat position.column

/-- Whether the first position stands at or before the second: lines decide, and columns within a line. -/
def precedes (first second : Position) : Bool :=
  first.line < second.line || (first.line == second.line && first.column ≤ second.column)

/-- The positions from the first to the last. -/
def sorted (positions : List Position) : List Position :=
  positions.mergeSort precedes

end Position

/-! ### Tokens -/

/-- A token of a source. -/
structure Token where
  /-- What kind of thing the token is. -/
  category : Category
  /-- The token as it stands in the source. -/
  literal : Text
  /-- Where it begins. -/
  position : Position
deriving DecidableEq, Repr

namespace Token

/-- The token as a token list shows it: its position, its code and its literal. -/
def text (token : Token) : Text :=
  '[' :: (Text.ofNat token.position.line ++ ',' :: (Text.ofNat token.position.column ++
    "] ".toList ++ token.category.code ++ ": ".toList ++ token.literal))

end Token

/-! ### Tables -/

/-- Tokens in the order in which they were scanned. -/
structure Table where
  /-- The tokens as they are stored. -/
  entries : Array Token
deriving DecidableEq, Repr

/-- An index at which the table holds no token. -/
structure OutOfBounds where
  /-- How many tokens the table holds. -/
  size : Nat
  /-- The index that was asked for. -/
  index : Nat
deriving DecidableEq, Repr

/-- What is said of such an index. -/
def OutOfBounds.message (fault : OutOfBounds) : Text :=
  "index out of bounds: the len is ".toList ++ Text.ofNat fault.size ++ " but the index is ".toList ++
    Text.ofNat fault.index

namespace Table

/-- The tokens of the table, the first one scanned at the head. -/
def tokens (table : Table) : List Token :=
  table.entries.toList

/-- The table without tokens. -/
def empty : Table :=
  { entries := #[] }

/-- The table with more tokens at its end. -/
def append (table : Table) (more : List Token) : Table :=
  { entries := table.entries ++ more }

/-- The number of tokens in the table. -/
def size (table : Table) : Nat :=
  table.entries.size

/-- The number of tokens of one category. -/
def count (table : Table) (category : Category) : Nat :=
  table.tokens.countP (·.category = category)

/-- The token at an index, counted from zero. -/
def get (table : Table) (index : Nat) : Except OutOfBounds Token :=
  match table.entries[index]? with
  | some token => .ok token
  | none => .error { size := table.size, index }

/-- A new table holds nothing. -/
@[simp] theorem tokens_empty : empty.tokens = [] := rfl

/-- What is appended stands behind what the table holds. -/
@[simp] theorem tokens_append (table : Table) (more : List Token) :
    (table.append more).tokens = table.tokens ++ more := by
  simp [tokens, append]

/-- The size of a table is the length of its list of tokens. -/
theorem size_eq_length (table : Table) : table.size = table.tokens.length := by
  simp [size, tokens]

/-- Two tables that hold the same tokens are the same table. -/
theorem eq_of_tokens_eq {first second : Table} (same : first.tokens = second.tokens) :
    first = second := by
  cases first
  cases second
  simpa [tokens] using same

end Table

end Lexical
