/-
Module: Lexical.Proofs.Layout
Layer: Proofs
Purpose: A table holds all that matters of its source: the text that has its tokens where they stand, and
  nothing but spaces elsewhere, is tokenized into the same table. A line of this text fades the line of the
  source (`Text.Fades`): of its characters some have become spaces, and none is new. So it opens like the
  line itself and shows no comment that the line does not show, and every lexeme of the line is cut off it
  in its place.
Imports: Lexical.Proofs.JoinedSources
Main exports: Text.Fades, Text.Fades.opensLike, Text.Fades.commentAt, Text.ShowsFrom, Cut.reads_row,
  Table.height, Table.lexemesOn, Table.LaidOut, Table.layout, Table.laidOut_rows, tokenize_laidOut
-/

import Lexical.Proofs.JoinedSources

namespace Lexical

/-! ### Faded lines -/

namespace Text

/-- The first text is the second, or the start of it, with some characters faded to spaces; behind the end
of the second it can go on with spaces. -/
inductive Fades : Text → Text → Prop where
  | nil {text : Text} : Fades [] text
  | keep {other text : Text} (c : Char) (onward : Fades other text) : Fades (c :: other) (c :: text)
  | fade {other text : Text} (onward : Fades other text.tail) : Fades (' ' :: other) text

namespace Fades

variable {other text : Text}

theorem append (front : Text) (fades : other.Fades text) : Fades (front ++ other) (front ++ text) := by
  induction front with
  | nil => exact fades
  | cons c front ih => exact .keep c ih

/-- Spaces fade whatever stands in their place. -/
theorem spaces_append (count : Nat) (fades : other.Fades (text.drop count)) :
    Fades (List.replicate count ' ' ++ other) text := by
  induction count generalizing text with
  | zero => exact fades
  | succ count ih =>
      refine .fade (ih ?_)
      rwa [List.drop_tail]

/-- What is no space has not faded. -/
theorem exists_cons {c : Char} (fades : Fades (c :: other) text) (notSpace : c ≠ ' ') :
    ∃ rest, text = c :: rest ∧ other.Fades rest := by
  cases fades with
  | keep _ onward => exact ⟨_, rfl, onward⟩
  | fade => exact absurd rfl notSpace

/-- A faded text opens like the text itself: up to its first blank nothing has faded. -/
theorem opensLike (fades : other.Fades text) : other.OpensLike text := by
  induction fades with
  | nil => exact opensLike_nil _
  | keep c onward ih => exact ih.append [c]
  | fade => exact opensLike_of_blank _ _ (by decide)

/-- The end of a comment that a faded text shows stands in the text itself. -/
theorem exists_commentEnd {body rest : Text} (fades : Fades (body ++ '*' :: '/' :: rest) text) :
    ∃ before after, text = before ++ '*' :: '/' :: after := by
  induction body generalizing text with
  | nil =>
      obtain ⟨behindStar, rfl, onward⟩ := fades.exists_cons (by decide)
      obtain ⟨after, rfl, -⟩ := onward.exists_cons (by decide)
      exact ⟨[], after, rfl⟩
  | cons c body ih =>
      cases fades with
      | keep _ onward =>
          obtain ⟨before, after, rfl⟩ := ih onward
          exact ⟨c :: before, after, rfl⟩
      | fade onward =>
          obtain ⟨before, after, split⟩ := ih onward
          cases text with
          | nil => simp at split
          | cons d text => exact ⟨d :: before, after, congrArg (d :: ·) split⟩

/-- A faded line shows no comment that the line itself does not show. -/
theorem commentAt (fades : other.Fades text) (oneLine : '\n' ∉ text) (fits : CommentAt other) :
    CommentAt text := by
  rcases fits with ⟨body, rfl, -⟩ | ⟨body, rest, rfl, -⟩
  · obtain ⟨behind, rfl, onward⟩ := fades.exists_cons (by decide)
    obtain ⟨more, rfl, -⟩ := onward.exists_cons (by decide)
    refine Or.inl ⟨more, rfl, fun member => oneLine ?_⟩
    exact List.mem_cons_of_mem _ (List.mem_cons_of_mem _ member)
  · obtain ⟨behind, rfl, onward⟩ := fades.exists_cons (by decide)
    obtain ⟨more, rfl, further⟩ := onward.exists_cons (by decide)
    obtain ⟨before, after, rfl⟩ := further.exists_commentEnd
    refine Or.inr ⟨before, after, rfl, fun member => oneLine ?_⟩
    exact List.mem_cons_of_mem _ (List.mem_cons_of_mem _ (List.mem_append_left _ member))

end Fades

end Text

/-! ### Lines that show lexemes -/

/-- The character in the column belongs to the lexeme. -/
def Lexeme.Covers (lexeme : Lexeme) (column : Nat) : Prop :=
  lexeme.column ≤ column ∧ column < lexeme.column + lexeme.literal.length

/-- The text, which begins at the column, has the lexemes where they stand and nothing else but spaces. -/
structure Text.ShowsFrom (column : Nat) (lexemes : List Lexeme) (text : Text) : Prop where
  /-- Every lexeme stands in its place. -/
  stands : ∀ lexeme ∈ lexemes, ∃ before after, text = before ++ lexeme.literal ++ after ∧
    lexeme.column = column + before.length
  /-- Every other character is a space. -/
  spaces : ∀ index c, text[index]? = some c → (∀ lexeme ∈ lexemes, ¬ lexeme.Covers (column + index)) →
    c = ' '

namespace Text.ShowsFrom

variable {column : Nat} {lexemes : List Lexeme} {text : Text}

/-- A text that shows no lexeme is spaces. -/
theorem eq_replicate_of_nil (shows : text.ShowsFrom column []) :
    text = List.replicate text.length ' ' := by
  apply List.eq_replicate_of_mem
  intro c member
  obtain ⟨index, stands⟩ := List.getElem?_of_mem member
  exact shows.spaces index c stands (by simp)

/-- Behind a number of characters that hold the first lexemes, the text shows the others. -/
theorem drop {front rest : Text} {near : List Lexeme}
    (shows : (front ++ rest).ShowsFrom column (near ++ lexemes))
    (within : ∀ lexeme ∈ near, lexeme.column + lexeme.literal.length ≤ column + front.length)
    (behind : ∀ lexeme ∈ lexemes, column + front.length ≤ lexeme.column) :
    rest.ShowsFrom (column + front.length) lexemes where
  stands lexeme member := by
    obtain ⟨before, after, split, columnEq⟩ := shows.stands lexeme (List.mem_append_right _ member)
    have notWithin := behind lexeme member
    rw [List.append_assoc] at split
    rcases List.append_eq_append_iff.mp split with ⟨more, rfl, restEq⟩ | ⟨more, frontEq, behindEq⟩
    · refine ⟨more, after, by rw [restEq, List.append_assoc], ?_⟩
      rw [columnEq, List.length_append, Nat.add_assoc]
    · have nothing : more = [] := by
        have length := congrArg List.length frontEq
        rw [List.length_append] at length
        exact List.eq_nil_of_length_eq_zero (by omega)
      refine ⟨[], after, by simpa [nothing] using behindEq.symm, ?_⟩
      rw [columnEq, frontEq, nothing, List.append_nil]
      rfl
  spaces index c stands free := by
    have inWhole : (front ++ rest)[front.length + index]? = some c := by
      rw [List.getElem?_append_right (by omega), Nat.add_sub_cancel_left]
      exact stands
    refine shows.spaces _ c inWhole fun lexeme member covers => ?_
    rcases List.mem_append.mp member with early | late
    · have ends := within lexeme early
      have reaches := covers.2
      omega
    · rw [← Nat.add_assoc] at covers
      exact free lexeme late covers

/-- A lexeme that stands first is shown, and behind it the others. -/
theorem exists_lexeme {lexeme : Lexeme} (shows : text.ShowsFrom lexeme.column (lexeme :: lexemes))
    (behind : ∀ other ∈ lexemes, lexeme.column + lexeme.literal.length ≤ other.column) :
    ∃ rest, text = lexeme.literal ++ rest ∧
      rest.ShowsFrom (lexeme.column + lexeme.literal.length) lexemes := by
  obtain ⟨before, after, split, columnEq⟩ := shows.stands lexeme List.mem_cons_self
  obtain rfl : before = [] := List.eq_nil_of_length_eq_zero (by omega)
  rw [List.nil_append] at split
  subst split
  have whole : (lexeme.literal ++ after).ShowsFrom lexeme.column ([lexeme] ++ lexemes) := shows
  exact ⟨after, rfl, whole.drop (by simp) behind⟩

/-- Where no lexeme begins among the first characters, these are spaces, and behind them the lexemes are
shown; or the text is shorter than that, and then there are no lexemes. -/
theorem exists_spaces {count : Nat} (shows : text.ShowsFrom column lexemes)
    (behind : ∀ lexeme ∈ lexemes, column + count ≤ lexeme.column) :
    (∃ rest, text = List.replicate count ' ' ++ rest ∧ rest.ShowsFrom (column + count) lexemes) ∨
      lexemes = [] := by
  by_cases long : count ≤ text.length
  · have length : (text.take count).length = count := List.length_take_of_le long
    have free : ∀ c ∈ text.take count, c = ' ' := by
      intro c member
      obtain ⟨index, stands⟩ := List.getElem?_of_mem member
      rw [List.getElem?_take, Option.ite_none_right_eq_some] at stands
      refine shows.spaces index c stands.2 fun lexeme inLexemes covers => ?_
      have notBefore := behind lexeme inLexemes
      have begun := covers.1
      omega
    have spaces : text.take count = List.replicate count ' ' := by
      have all := List.eq_replicate_of_mem free
      rwa [length] at all
    refine Or.inl ⟨text.drop count, by rw [← spaces, List.take_append_drop], ?_⟩
    have whole : ShowsFrom column ([] ++ lexemes) (text.take count ++ text.drop count) := by
      rwa [List.take_append_drop, List.nil_append]
    have dropped := whole.drop (by simp) (by rwa [length])
    rwa [length] at dropped
  · refine Or.inr (List.eq_nil_iff_forall_not_mem.mpr fun lexeme member => ?_)
    obtain ⟨before, after, split, columnEq⟩ := shows.stands lexeme member
    have notBefore := behind lexeme member
    have lengths := congrArg List.length split
    simp only [List.length_append] at lengths
    omega

end Text.ShowsFrom

/-! ### Reading a faded line -/

/-- The lexemes of pieces do not begin before the first piece. -/
theorem le_column_of_mem_lexemesFrom {column : Nat} {pieces : List Piece} :
    ∀ lexeme ∈ lexemesFrom column pieces, column ≤ lexeme.column := by
  induction pieces generalizing column with
  | nil => simp [lexemesFrom]
  | cons piece pieces ih =>
      intro lexeme member
      rcases List.mem_append.mp member with here | further
      · exact Nat.le_of_eq (mem_lexemes here).2.symm
      · exact Nat.le_trans (Nat.le_add_right _ _) (ih lexeme further)

/-- Spaces alone are read as nothing. -/
theorem reads_spaces (column count : Nat) :
    Reads column (List.replicate count ' ') { lexemes := [], misreading? := none } := by
  have passed : Reads column (List.replicate count ' ' ++ []) _ :=
    .blanks_append (Text.IsMargin.spaces _).blank .done
  rwa [List.append_nil] at passed

theorem Text.fades_spaces (count : Nat) (text : Text) : Fades (List.replicate count ' ') text := by
  have faded : Fades (List.replicate count ' ' ++ []) text := .spaces_append count .nil
  rwa [List.append_nil] at faded

/-- A text that shows the lexemes of a line, each in its place, is read as these, and fades the line. -/
theorem Cut.reads_row {text row : Text} {pieces : List Piece} {column : Nat} (cut : Cut text pieces)
    (oneLine : '\n' ∉ text) (shows : row.ShowsFrom column (lexemesFrom column pieces)) :
    Reads column row { lexemes := lexemesFrom column pieces, misreading? := none } ∧ row.Fades text := by
  induction cut generalizing column row with
  | nil =>
      rw [shows.eq_replicate_of_nil]
      exact ⟨reads_spaces _ _, Text.fades_spaces _ _⟩
  | @cons piece rest pieces forced onward ih =>
      have oneLineRest : '\n' ∉ rest := fun member => oneLine (List.mem_append_right _ member)
      by_cases someLexeme : ∃ category literal, piece = .lexeme category literal
      · obtain ⟨category, literal, rfl⟩ := someLexeme
        obtain ⟨behind, rfl, further⟩ :=
          @Text.ShowsFrom.exists_lexeme _ _ { category, literal, column } shows
            le_column_of_mem_lexemesFrom
        obtain ⟨reads, fades⟩ := ih oneLineRest further
        have fadesHere : Text.Fades (literal ++ behind) (literal ++ rest) := fades.append literal
        have forcedHere : Forced (.lexeme category literal) behind :=
          forced.of_opensLike fades.opensLike (by simp) (fadesHere.commentAt oneLine)
        exact ⟨.piece forcedHere reads, fadesHere⟩
      · -- the piece leaves spaces in the row, unless the row has come to its end before
        have nothing : lexemesFrom column (piece :: pieces) =
            lexemesFrom (column + piece.text.length) pieces := by
          cases piece with
          | blank | comment => rfl
          | lexeme category literal => exact absurd ⟨category, literal, rfl⟩ someLexeme
        rw [nothing] at shows ⊢
        rcases shows.exists_spaces le_column_of_mem_lexemesFrom with ⟨behind, rfl, further⟩ | empty
        · obtain ⟨reads, fades⟩ := ih oneLineRest further
          constructor
          · apply Reads.blanks_append (Text.IsMargin.spaces _).blank
            rwa [List.length_replicate]
          · apply Text.Fades.spaces_append
            rwa [List.drop_left]
        · rw [empty] at shows ⊢
          rw [shows.eq_replicate_of_nil]
          exact ⟨reads_spaces _ _, Text.fades_spaces _ _⟩

/-! ### The layout of a table -/

/-- The token without its line. -/
def Token.lexeme (token : Token) : Lexeme :=
  { category := token.category, literal := token.literal, column := token.position.column }

namespace Table

/-- The line of the last token, or zero where there is none. -/
def height (table : Table) : Nat :=
  (table.tokens.getLast?.map (·.position.line)).getD 0

/-- The lexemes on the line with the given number. -/
def lexemesOn (table : Table) (number : Nat) : List Lexeme :=
  (table.tokens.filter (·.position.line = number)).map Token.lexeme

/-- The lines, up to that of the last token, have every token where it stands and nothing else but spaces. -/
structure LaidOut (table : Table) (lines : List Text) : Prop where
  length_eq : lines.length = table.height
  shows : ∀ (index : Nat) (line : Text), lines[index]? = some line →
    line.ShowsFrom 1 (table.lexemesOn (index + 1))

end Table

/-- The lexemes written one behind the other from a column on, with spaces up to each of them. -/
def rowFrom (column : Nat) : List Lexeme → Text
  | [] => []
  | lexeme :: lexemes =>
      List.replicate (lexeme.column - column) ' ' ++
        (lexeme.literal ++ rowFrom (lexeme.column + lexeme.literal.length) lexemes)

namespace Table

/-- The lines of a table, each of them up to the end of its last token. -/
def rows (table : Table) : List Text :=
  (List.range table.height).map fun index => rowFrom 1 (table.lexemesOn (index + 1))

/-- The text of a table. -/
def layout (table : Table) : Text :=
  Text.joined ['\n'] table.rows

end Table

/-- Lexemes that do not overlap stand in their places when they are written one behind the other. -/
theorem showsFrom_rowFrom {column : Nat} {lexemes : List Lexeme}
    (behind : ∀ lexeme ∈ lexemes, column ≤ lexeme.column)
    (apart : lexemes.Pairwise fun first second => first.column + first.literal.length ≤ second.column) :
    (rowFrom column lexemes).ShowsFrom column lexemes := by
  induction lexemes generalizing column with
  | nil => exact { stands := by simp, spaces := by simp [rowFrom] }
  | cons lexeme lexemes ih =>
      obtain ⟨apartHere, apartLater⟩ := List.pairwise_cons.mp apart
      have further := ih apartHere apartLater
      have place : column + (lexeme.column - column) = lexeme.column :=
        Nat.add_sub_cancel' (behind lexeme List.mem_cons_self)
      constructor
      · intro other member
        rcases List.mem_cons.mp member with rfl | later
        · exact ⟨_, _, (List.append_assoc ..).symm, by rw [List.length_replicate, place]⟩
        · obtain ⟨before, after, split, columnEq⟩ := further.stands other later
          refine ⟨List.replicate (lexeme.column - column) ' ' ++ lexeme.literal ++ before, after, ?_, ?_⟩
          · rw [rowFrom, split]
            simp only [List.append_assoc]
          · simp only [List.length_append, List.length_replicate]
            omega
      · intro index c stands free
        rw [rowFrom] at stands
        by_cases early : index < lexeme.column - column
        · rw [List.getElem?_append_left (by simpa using early)] at stands
          exact List.eq_of_mem_replicate (List.mem_of_getElem? stands)
        · rw [List.getElem?_append_right (by simpa using early), List.length_replicate] at stands
          have notHere : ¬ lexeme.Covers (column + index) := free lexeme List.mem_cons_self
          rw [Lexeme.Covers] at notHere
          rw [List.getElem?_append_right (by omega)] at stands
          apply further.spaces _ c stands
          intro other later covers
          apply free other (List.mem_cons_of_mem _ later)
          have same : lexeme.column + lexeme.literal.length +
              (index - (lexeme.column - column) - lexeme.literal.length) = column + index := by omega
          rwa [same] at covers

/-! ### The lines of a tokenized source -/

/-- On the line with a number stand the lexemes of the reading with this number. -/
theorem filter_tokensFrom (number index : Nat) (readings : List Reading) :
    ((tokensFrom number readings).filter (·.position.line = number + index)).map Token.lexeme =
      (readings[index]?.map (·.lexemes)).getD [] := by
  induction readings generalizing number index with
  | nil => simp [tokensFrom]
  | cons reading readings ih =>
      rw [tokensFrom, List.filter_append, List.map_append]
      cases index with
      | zero =>
          have here : (reading.lexemes.map (·.toToken number)).filter (·.position.line = number + 0) =
              reading.lexemes.map (·.toToken number) := by
            simp [List.filter_eq_self, Lexeme.toToken]
          have further : (tokensFrom (number + 1) readings).filter (·.position.line = number + 0) = [] := by
            rw [List.filter_eq_nil_iff]
            intro token member
            obtain ⟨later, -, lexeme, -, -, rfl⟩ := mem_tokensFrom.mp member
            have below : number + 1 + later ≠ number + 0 := by omega
            exact fun equal => below (of_decide_eq_true equal)
          rw [here, further, List.map_map]
          exact (List.append_nil _).trans (List.map_id _)
      | succ index =>
          have here : (reading.lexemes.map (·.toToken number)).filter
              (·.position.line = number + (index + 1)) = [] := by
            simp [Lexeme.toToken]
          rw [here, ← Nat.add_assoc, Nat.add_right_comm, ih]
          rfl

namespace Table

variable {table : Table} {source : Text}

theorem lexemesOn_of_tokens {readings : List Reading} (tokens : table.tokens = tokensFrom 1 readings)
    {index : Nat} {reading : Reading} (isReading : readings[index]? = some reading) :
    table.lexemesOn (index + 1) = reading.lexemes := by
  rw [lexemesOn, tokens, Nat.add_comm index 1, filter_tokensFrom, isReading]
  rfl

/-- No token stands below the last one. -/
theorem line_le_height {lines : List Text} (tokens : table.tokens = tokensFrom 1 (lines.map readLine)) :
    ∀ token ∈ table.tokens, token.position.line ≤ table.height := by
  have ordered := pairwise_tokensFrom 1 lines
  rw [← tokens] at ordered
  rcases List.eq_nil_or_concat table.tokens with empty | ⟨init, last, whole⟩
  · simp [empty]
  · rw [List.concat_eq_append] at whole
    rw [whole] at ordered
    have height : table.height = last.position.line := by simp [Table.height, whole]
    rw [whole, height, List.forall_mem_append]
    refine ⟨fun token member => ?_, by simp⟩
    have before := (List.pairwise_append.mp ordered).2.2 token member last (List.mem_singleton.mpr rfl)
    omega

/-- The last token stands on a line of the source. -/
theorem height_le_length {lines : List Text} (tokens : table.tokens = tokensFrom 1 (lines.map readLine)) :
    table.height ≤ lines.length := by
  cases last : table.tokens.getLast? with
  | none => simp [Table.height, last]
  | some token =>
      have member := List.mem_of_getLast? last
      rw [tokens] at member
      obtain ⟨index, reading, lexeme, found, -, rfl⟩ := mem_tokensFrom.mp member
      have inside := (List.getElem?_eq_some_iff.mp found).1
      rw [List.length_map] at inside
      simp only [Table.height, last, Option.map_some, Option.getD_some, Lexeme.toToken]
      omega

/-- The lines below that of the last token give no tokens. -/
theorem tokensFrom_take_height {lines : List Text}
    (tokens : table.tokens = tokensFrom 1 (lines.map readLine)) :
    tokensFrom 1 ((lines.map readLine).take table.height) = table.tokens := by
  have whole := tokensFrom_append 1 ((lines.map readLine).take table.height)
    ((lines.map readLine).drop table.height)
  rw [List.take_append_drop, ← tokens] at whole
  have nothing : tokensFrom (1 + ((lines.map readLine).take table.height).length)
      ((lines.map readLine).drop table.height) = [] := by
    rw [List.eq_nil_iff_forall_not_mem]
    intro token member
    have inTable : token ∈ table.tokens := by
      rw [whole]
      exact List.mem_append_right _ member
    have above := line_le_height tokens token inTable
    have within := height_le_length tokens
    obtain ⟨index, reading, lexeme, -, -, rfl⟩ := mem_tokensFrom.mp member
    rw [List.length_take_of_le (by simpa using within)] at above
    simp only [Lexeme.toToken] at above
    omega
  rw [nothing, List.append_nil] at whole
  exact whole.symm

/-- Down to the last token, every line of a tokenized source is cut into pieces, and their lexemes are what
the table has on this line. -/
theorem exists_cut (tokenized : tokenize source = .ok table) {index : Nat} (above : index < table.height) :
    ∃ line pieces, source.lines[index]? = some line ∧ '\n' ∉ line ∧ Cut line pieces ∧
      table.lexemesOn (index + 1) = lexemesFrom 1 pieces := by
  obtain ⟨noError, tokens⟩ := tokenize_eq_ok_iff.mp tokenized
  have inside : index < source.lines.length := Nat.lt_of_lt_of_le above (height_le_length tokens)
  have isLine : source.lines[index]? = some source.lines[index] := List.getElem?_eq_getElem inside
  have member := List.mem_of_getElem? isLine
  obtain ⟨pieces, cut, lexemes⟩ :=
    (reads_readLine source.lines[index]).exists_cut (tokenize_noFault tokenized _ member)
  refine ⟨_, pieces, isLine, Text.not_mem_of_mem_lines member, cut, ?_⟩
  rw [← lexemes]
  apply lexemesOn_of_tokens tokens
  rw [List.getElem?_map, isLine]
  rfl

/-- Lines in which the table is laid out are read like those of the source. -/
theorem LaidOut.map_readLine {lines : List Text} (laidOut : table.LaidOut lines)
    (tokenized : tokenize source = .ok table) :
    lines.map readLine = (source.lines.map readLine).take table.height := by
  have within := height_le_length (tokenize_eq_ok_iff.mp tokenized).2
  apply List.ext_getElem?
  intro index
  by_cases above : index < table.height
  · obtain ⟨line, pieces, isLine, oneLine, cut, lexemes⟩ := exists_cut tokenized above
    have inside : index < lines.length := by rwa [laidOut.length_eq]
    have isRow : lines[index]? = some lines[index] := List.getElem?_eq_getElem inside
    have shows := laidOut.shows index _ isRow
    rw [lexemes] at shows
    rw [List.getElem?_take_of_lt above, List.getElem?_map, List.getElem?_map, isRow, isLine]
    exact congrArg some ((cut.reads_row oneLine shows).1.eq_readLine.trans (cut.reads 1).eq_readLine.symm)
  · rw [List.getElem?_eq_none, List.getElem?_eq_none]
    · rw [List.length_take]
      omega
    · rw [List.length_map, laidOut.length_eq]
      omega

end Table

/-! ### Laying a table out -/

/-- No lexeme of a piece ends with a blank. -/
theorem Forced.last_not_blank {category : Category} {literal rest : Text}
    (forced : Forced (.lexeme category literal) rest) :
    ∀ c ∈ literal.getLast?, Text.isBlank c = false := by
  intro c atEnd
  have member := List.mem_of_getLast? atEnd
  cases forced with
  | @string body =>
      have last : ('"' :: (body ++ ['"'])).getLast? = some '"' := List.getLast?_concat (l := '"' :: body)
      obtain rfl : '"' = c := Option.some.inj (last.symm.trans atEnd)
      decide
  | @char body =>
      have last : ('\'' :: (body ++ ['\''])).getLast? = some '\'' := List.getLast?_concat (l := '\'' :: body)
      obtain rfl : '\'' = c := Option.some.inj (last.symm.trans atEnd)
      decide
  | symbol inTable =>
      have symbolChar := symbolChars_of_mem_symbolTable _ inTable c member
      simp only [Text.isSymbolChar, Bool.and_eq_true] at symbolChar
      exact Text.isBlank_of_isSign symbolChar.1.1.1
  | word begins continues =>
      apply Text.isBlank_of_continuesWord
      rcases List.mem_cons.mp member with rfl | inRun
      · exact Text.continuesWord_of_beginsWord begins
      · exact continues c inRun
  | whole nonempty all =>
      exact Text.isBlank_of_continuesWord (Text.continuesWord_of_isDigit (all c member))
  | fraction nonempty all nonemptyDecimals allDecimals =>
      rcases List.mem_append.mp member with inDigits | behind
      · exact Text.isBlank_of_continuesWord (Text.continuesWord_of_isDigit (all c inDigits))
      · rcases List.mem_cons.mp behind with rfl | inDecimals
        · decide
        · exact Text.isBlank_of_continuesWord (Text.continuesWord_of_isDigit (allDecimals c inDecimals))

/-- The lexemes of a line that is cut into pieces are parts of the line that do not end with a blank. -/
theorem Cut.lexeme_spec {text : Text} {pieces : List Piece} (cut : Cut text pieces) (column : Nat) :
    ∀ lexeme ∈ lexemesFrom column pieces, lexeme.literal ≠ [] ∧ lexeme.literal <:+: text ∧
      ∀ c ∈ lexeme.literal.getLast?, Text.isBlank c = false := by
  induction cut generalizing column with
  | nil => simp [lexemesFrom]
  | @cons piece rest pieces forced onward ih =>
      intro lexeme member
      rcases List.mem_append.mp member with here | further
      · cases piece with
        | blank | comment => exact absurd here List.not_mem_nil
        | lexeme category literal =>
            obtain rfl := List.mem_singleton.mp here
            exact ⟨forced.text_ne_nil, (List.prefix_append _ _).isInfix, forced.last_not_blank⟩
      · obtain ⟨nonempty, stands, ends⟩ := ih _ lexeme further
        exact ⟨nonempty, stands.trans (List.suffix_append _ _).isInfix, ends⟩

/-- The characters of a row are spaces and those of its lexemes. -/
theorem mem_rowFrom {column : Nat} {lexemes : List Lexeme} {c : Char} (member : c ∈ rowFrom column lexemes) :
    c = ' ' ∨ ∃ lexeme ∈ lexemes, c ∈ lexeme.literal := by
  induction lexemes generalizing column with
  | nil => exact absurd member List.not_mem_nil
  | cons lexeme lexemes ih =>
      rw [rowFrom, List.mem_append, List.mem_append] at member
      rcases member with space | here | further
      · exact Or.inl (List.eq_of_mem_replicate space)
      · exact Or.inr ⟨lexeme, List.mem_cons_self, here⟩
      · refine (ih further).imp_right fun ⟨other, later, inOther⟩ => ?_
        exact ⟨other, List.mem_cons_of_mem _ later, inOther⟩

/-- A row ends with a lexeme. -/
theorem getLast?_rowFrom {column : Nat} {lexemes : List Lexeme}
    (nonempty : ∀ lexeme ∈ lexemes, lexeme.literal ≠ []) {c : Char}
    (atEnd : (rowFrom column lexemes).getLast? = some c) :
    ∃ lexeme ∈ lexemes, lexeme.literal.getLast? = some c := by
  induction lexemes generalizing column with
  | nil => simp [rowFrom] at atEnd
  | cons lexeme lexemes ih =>
      obtain ⟨here, further⟩ := List.forall_mem_cons.mp nonempty
      have someLast : lexeme.literal.getLast? = some (lexeme.literal.getLast here) :=
        List.getLast?_eq_some_getLast here
      rw [rowFrom, List.getLast?_append, List.getLast?_append, Option.or_assoc, someLast, Option.some_or]
        at atEnd
      rcases Option.or_eq_some_iff.mp atEnd with later | ⟨-, ofLexeme⟩
      · obtain ⟨other, member, last⟩ := ih further later
        exact ⟨other, List.mem_cons_of_mem _ member, last⟩
      · exact ⟨lexeme, List.mem_cons_self, someLast.trans ofLexeme⟩

namespace Table

variable {table : Table} {source : Text}

theorem exists_of_mem_rows {row : Text} (member : row ∈ table.rows) :
    ∃ index, index < table.height ∧ row = rowFrom 1 (table.lexemesOn (index + 1)) := by
  obtain ⟨index, inRange, rfl⟩ := List.mem_map.mp member
  exact ⟨index, List.mem_range.mp inRange, rfl⟩

/-- The last row has a token. -/
theorem ne_nil_of_getLast?_rows (tokenized : tokenize source = .ok table) :
    ∀ row ∈ table.rows.getLast?, row ≠ [] := by
  intro row atEnd
  rw [rows, List.getLast?_map, Option.mem_def, Option.map_eq_some_iff] at atEnd
  obtain ⟨index, isLast, rfl⟩ := atEnd
  have above : index < table.height := List.mem_range.mp (List.mem_of_getLast? isLast)
  have indexEq : index + 1 = table.height := by
    rw [List.getLast?_range, if_neg (by omega), Option.some.injEq] at isLast
    omega
  obtain ⟨line, pieces, -, -, cut, lexemes⟩ := exists_cut tokenized above
  cases last : table.tokens.getLast? with
  | none => simp [height, last] at above
  | some token =>
      have onLast : token.lexeme ∈ table.lexemesOn (index + 1) := by
        rw [lexemesOn, indexEq]
        refine List.mem_map_of_mem (List.mem_filter.mpr ⟨List.mem_of_getLast? last, ?_⟩)
        simp [height, last]
      rw [lexemes] at onLast ⊢
      obtain ⟨before, after, row, -⟩ :=
        (showsFrom_rowFrom le_column_of_mem_lexemesFrom (cut.reads 1).pairwise).stands _ onLast
      rw [row]
      simp [(cut.lexeme_spec 1 _ onLast).1]

/-- The lines of the layout are the rows of the table. -/
theorem lines_layout (tokenized : tokenize source = .ok table) : table.layout.lines = table.rows := by
  apply Text.lines_joined
  · intro row member inRow
    obtain ⟨index, above, rfl⟩ := exists_of_mem_rows member
    obtain ⟨line, pieces, -, oneLine, cut, lexemes⟩ := exists_cut tokenized above
    rw [lexemes] at inRow
    rcases mem_rowFrom inRow with space | ⟨lexeme, inLexemes, inLiteral⟩
    · exact absurd space (by decide)
    · exact oneLine ((cut.lexeme_spec 1 lexeme inLexemes).2.1.subset inLiteral)
  · intro row member
    obtain ⟨index, above, rfl⟩ := exists_of_mem_rows member
    obtain ⟨line, pieces, -, oneLine, cut, lexemes⟩ := exists_cut tokenized above
    rw [lexemes, Text.dropReturn, if_neg]
    intro returns
    have spec := cut.lexeme_spec 1
    obtain ⟨lexeme, inLexemes, last⟩ := getLast?_rowFrom (fun other among => (spec other among).1) returns
    exact absurd ((spec lexeme inLexemes).2.2 _ last) (by decide)
  · exact ne_nil_of_getLast?_rows tokenized

/-- In its rows the table is laid out. -/
theorem laidOut_rows (tokenized : tokenize source = .ok table) : table.LaidOut table.rows where
  length_eq := by rw [rows, List.length_map, List.length_range]
  shows index row isRow := by
    obtain ⟨above, rfl⟩ := List.getElem?_eq_some_iff.mp isRow
    have inside : index < table.height := by rwa [rows, List.length_map, List.length_range] at above
    obtain ⟨line, pieces, -, -, cut, lexemes⟩ := exists_cut tokenized inside
    have isRowFrom : table.rows[index] = rowFrom 1 (table.lexemesOn (index + 1)) := by simp [rows]
    rw [isRowFrom, lexemes]
    exact showsFrom_rowFrom le_column_of_mem_lexemesFrom (cut.reads 1).pairwise

end Table

/-- A table is laid out in the text that has its tokens where they stand and else only spaces; and however it
is laid out in the lines of a text, tokenizing this text gives back the table. -/
theorem tokenize_laidOut {source : Text} {table : Table} (tokenized : tokenize source = .ok table) :
    table.LaidOut table.layout.lines ∧
      ∀ text : Text, table.LaidOut text.lines → tokenize text = .ok table := by
  obtain ⟨noError, tokens⟩ := tokenize_eq_ok_iff.mp tokenized
  refine ⟨?_, fun text laidOut => ?_⟩
  · rw [Table.lines_layout tokenized]
    exact Table.laidOut_rows tokenized
  · rw [tokenize_eq_ok_iff, laidOut.map_readLine tokenized, Table.tokensFrom_take_height tokens]
    refine ⟨firstError?_eq_none_iff.mpr fun reading member => ?_, rfl⟩
    exact firstError?_eq_none_iff.mp noError reading (List.mem_of_mem_take member)

/-- The comment between a word and a string becomes spaces, and the table stays the same. -/
theorem tokenize_laidOut_comment_between :
    let table : Table :=
      { entries := #[{ category := .identifier, literal := ['a'], position := ⟨1, 1⟩ },
          { category := .string, literal := "\"\"".toList, position := ⟨1, 6⟩ }] }
    tokenize "a/**/\"\"".toList = .ok table ∧ table.layout = "a    \"\"".toList ∧
      tokenize "a    \"\"".toList = .ok table := by
  have notKeyword : wordCategory ['a'] = .identifier := by decide
  have word : Forced (.lexeme (wordCategory ['a']) ['a']) "/**/\"\"".toList :=
    .word rfl (List.forall_mem_nil _) (Text.stopsRun_cons.mpr rfl)
  rw [notKeyword] at word
  have comment : Forced (.comment "/**/".toList) "\"\"".toList :=
    @Forced.blockComment [] _ (by decide) (by decide)
  have string : Forced (.lexeme .string "\"\"".toList) [] :=
    @Forced.string [] _ (by decide) (by decide)
  have cut : Cut "a/**/\"\"".toList
      [.lexeme .identifier ['a'], .comment "/**/".toList, .lexeme .string "\"\"".toList] :=
    .cons word (.cons comment (.cons string .nil))
  have tokenized : tokenize "a/**/\"\"".toList = .ok _ := tokenize_of_cut rfl cut
  obtain ⟨laidOut, faithful⟩ := tokenize_laidOut tokenized
  exact ⟨tokenized, rfl, faithful _ laidOut⟩

end Lexical
