/-
Module: Lexical.Proofs.Spacing
Layer: Proofs
Purpose: Blanks keep lexemes apart. In a text where every lexeme is followed by a blank or by nothing
  (`SetApart`), the lexemes are read off one by one, line for line, as what they are by themselves. So the
  literals of tokens that any sessions have found, in any order and with any blanks between them, are
  tokenized as the same lexemes: no quote pairs with one of a neighbour, and no comment opens.
Imports: Lexical.Proofs.Spelling, Mathlib.Data.List.Forall2
Main exports: SetApart, SetApart.exists_rows, SetApart.tokenize, Text.spaced, setApart_spaced,
  tokenize_spaced
-/

import Lexical.Proofs.Spelling
import Mathlib.Data.List.Forall2

namespace Lexical

/-! ### Rows of pieces -/

/-- Lines that are cut into pieces are read without a fault, and their tokens are the lexemes among the
pieces. -/
theorem tokensFrom_of_cut {lines : List Text} {rows : List (List Piece)} (cut : List.Forall₂ Cut lines rows)
    (number : Nat) :
    firstError? number (lines.map readLine) = none ∧
      (tokensFrom number (lines.map readLine)).map (fun token => (token.category, token.literal)) =
        rows.flatten.filterMap Piece.token? := by
  induction cut generalizing number with
  | nil => exact ⟨rfl, rfl⟩
  | @cons line pieces lines rows cutLine _ ih =>
      obtain ⟨noError, onward⟩ := ih (number + 1)
      have reading := (cutLine.reads 1).eq_readLine
      constructor
      · simp [firstError?, reading, noError]
      · simp [tokensFrom, reading, onward, ← map_lexemesFrom 1 pieces, Lexeme.toToken]

/-! ### Lexemes among blanks -/

/-- The text consists of the lexemes in this order and of blanks that set them apart: behind each lexeme
stands a blank or nothing. -/
inductive SetApart : Text → List (Category × Text) → Prop where
  | nil : SetApart [] []
  | blank {c : Char} {text : Text} {lexemes : List (Category × Text)} (blank : Text.isBlank c = true)
      (onward : SetApart text lexemes) : SetApart (c :: text) lexemes
  | lexeme {category : Category} {literal text : Text} {lexemes : List (Category × Text)}
      (alone : Forced (.lexeme category literal) []) (apart : text.StopsRun (!Text.isBlank ·))
      (onward : SetApart text lexemes) : SetApart (literal ++ text) ((category, literal) :: lexemes)

namespace SetApart

variable {text : Text} {lexemes : List (Category × Text)}

/-- Blanks in front make no difference. -/
theorem blanks_append {blanks : Text} (blank : ∀ c ∈ blanks, Text.isBlank c = true)
    (setApart : SetApart text lexemes) : SetApart (blanks ++ text) lexemes := by
  induction blanks with
  | nil => exact setApart
  | cons c blanks ih =>
      obtain ⟨here, further⟩ := List.forall_mem_cons.mp blank
      exact .blank here (ih further)

/-- Lexemes that are set apart are cut off line for line. -/
theorem exists_rows (setApart : SetApart text lexemes) :
    ∃ rows, List.Forall₂ Cut (List.splitOn '\n' text) rows ∧
      rows.flatten.filterMap Piece.token? = lexemes := by
  induction setApart with
  | nil => exact ⟨[[]], .cons .nil .nil, rfl⟩
  | @blank c text lexemes blank _ ih =>
      obtain ⟨rows, cut, rfl⟩ := ih
      by_cases feed : c = '\n'
      · refine ⟨[] :: rows, ?_, rfl⟩
        rw [feed, Text.splitOn_cons_self]
        exact .cons .nil cut
      · obtain ⟨line, later, -, parts, -⟩ := Text.exists_firstLine text
        rw [parts] at cut
        cases cut with
        | @cons _ pieces _ rows cutLine cutLater =>
            refine ⟨(.blank c :: pieces) :: rows, ?_, rfl⟩
            rw [Text.splitOn_cons_of_ne _ feed, parts]
            exact .cons (.cons (.blank blank) cutLine) cutLater
  | @lexeme category literal text lexemes alone apart _ ih =>
      obtain ⟨rows, cut, rfl⟩ := ih
      obtain ⟨line, later, after, parts, split, -⟩ := Text.exists_firstLine text
      rw [parts] at cut
      cases cut with
      | @cons _ pieces _ rows cutLine cutLater =>
          -- the line goes on like the text, so a blank or nothing follows the lexeme there as well
          have apartInLine : line.StopsRun (!Text.isBlank ·) := by
            intro c atHead
            apply apart c
            rw [split]
            exact List.mem_head?_append_of_mem_head? atHead
          have forced : Forced (.lexeme category literal) line := alone.before_blank apartInLine (by simp)
          refine ⟨(.lexeme category literal :: pieces) :: rows, ?_, rfl⟩
          rw [Text.splitOn_append_of_oneLine alone.oneLine parts]
          exact .cons (.cons forced cutLine) cutLater

/-- Lexemes that are set apart are what the text is tokenized into. -/
theorem tokenize (setApart : SetApart text lexemes) :
    ∃ table, tokenize text = .ok table ∧
      table.tokens.map (fun token => (token.category, token.literal)) = lexemes := by
  obtain ⟨rows, cut, rfl⟩ := setApart.exists_rows
  obtain ⟨noError, tokens⟩ := tokensFrom_of_cut cut 1
  let table : Table := { entries := (tokensFrom 1 (readings text)).toArray }
  exact ⟨table, tokenize_eq_ok_iff_readings.mpr ⟨noError, rfl⟩, tokens⟩

end SetApart

/-! ### Literals of tokens -/

/-- The texts one after the other with separators between them, of which the first one has number zero. -/
def Text.spaced (separator : Nat → Text) : List Text → Text
  | [] => []
  | [last] => last
  | text :: next :: more =>
      text ++ (separator 0 ++ spaced (fun index => separator (index + 1)) (next :: more))

/-- Literals that are pieces by themselves are set apart by blanks. -/
theorem setApart_spaced {separator : Nat → Text}
    (blank : ∀ index, separator index ≠ [] ∧ ∀ c ∈ separator index, Text.isBlank c = true)
    {tokens : List Token} (alone : ∀ token ∈ tokens, Forced (.lexeme token.category token.literal) []) :
    SetApart (Text.spaced separator (tokens.map (·.literal)))
      (tokens.map fun token => (token.category, token.literal)) := by
  induction tokens generalizing separator with
  | nil => exact .nil
  | cons token tokens ih =>
      obtain ⟨here, further⟩ := List.forall_mem_cons.mp alone
      cases tokens with
      | nil =>
          have last : SetApart (token.literal ++ []) [(token.category, token.literal)] :=
            .lexeme here (Text.stopsRun_nil _) .nil
          rwa [List.append_nil] at last
      | cons next more =>
          obtain ⟨nonempty, allBlank⟩ := blank 0
          have onward := (ih (fun index => blank (index + 1)) further).blanks_append allBlank
          refine .lexeme here (fun c atHead => ?_) onward
          rw [List.head?_append_of_ne_nil _ nonempty] at atHead
          simp [allBlank c (List.mem_of_mem_head? atHead)]

/-- What a literal is recognized as does not depend on where it stands. Tokens of any sessions, in any order,
are found again where their literals are written one after the other with blanks between them, line feeds
and carriage returns included: nothing fails, and no other token comes of it. -/
theorem tokenize_spaced {tokens : List Token}
    (scanned : ∀ token ∈ tokens, ∃ lines, token ∈ (Scanner.start.after lines).table.tokens)
    {separator : Nat → Text}
    (blank : ∀ index, separator index ≠ [] ∧ ∀ c ∈ separator index, Text.isBlank c = true) :
    ∃ table, tokenize (Text.spaced separator (tokens.map (·.literal))) = .ok table ∧
      table.tokens.map (fun token => (token.category, token.literal)) =
        tokens.map fun token => (token.category, token.literal) := by
  apply SetApart.tokenize
  apply setApart_spaced blank
  intro token member
  obtain ⟨lines, inTable⟩ := scanned token member
  exact Scanner.forced_of_mem_after inTable

/-- A slash, a quotation mark between apostrophes and an end of comment between quotation marks stay what they
are behind one another, with a line feed and with a carriage return and an ideographic space between them. -/
theorem tokenize_spaced_quotes :
    let separator : Nat → Text := fun index => if index = 0 then ['\n'] else ['\r', '\u3000']
    let tokens : List Token :=
      [{ category := .char, literal := "'\"'".toList, position := ⟨1, 6⟩ },
        { category := .arithmeticOperator, literal := "/".toList, position := ⟨1, 1⟩ },
        { category := .string, literal := "\"*/\"".toList, position := ⟨1, 2⟩ }]
    (∀ token ∈ tokens, ∃ lines, token ∈ (Scanner.start.after lines).table.tokens) ∧
      Text.spaced separator (tokens.map (·.literal)) = "'\"'\n/\r\u3000\"*/\"".toList ∧
        ∃ table, tokenize "'\"'\n/\r\u3000\"*/\"".toList = .ok table ∧
          table.tokens.map (fun token => (token.category, token.literal)) =
            [(.char, "'\"'".toList), (.arithmeticOperator, "/".toList), (.string, "\"*/\"".toList)] := by
  intro separator tokens
  have char : Forced (.lexeme .char "'\"'".toList) [] :=
    @Forced.char ['"'] [] (by decide) (by decide) (by decide)
  have string : Forced (.lexeme .string "\"*/\"".toList) "'\"'".toList :=
    @Forced.string "*/".toList _ (by decide) (by decide)
  have slash : Forced (.lexeme .arithmeticOperator "/".toList) "\"*/\"'\"'".toList :=
    .symbol (by decide) (by decide) (by simp [CommentAt])
  have reads : Reads 1 "/\"*/\"'\"'".toList _ := .piece slash (.piece string (.piece char .done))
  have scanned : ∀ token ∈ tokens, ∃ lines, token ∈ (Scanner.start.after lines).table.tokens := by
    intro token member
    have added : (Scanner.start.after ["/\"*/\"'\"'".toList]).table.tokens =
        tokensFrom 1 [readLine "/\"*/\"'\"'".toList] := Scanner.start.tokens_after _
    refine ⟨["/\"*/\"'\"'".toList], ?_⟩
    rw [added, reads.eq_readLine]
    simp only [tokens, List.mem_cons, List.not_mem_nil, or_false] at member
    rcases member with rfl | rfl | rfl <;> decide
  have blank : ∀ index, separator index ≠ [] ∧ ∀ c ∈ separator index, Text.isBlank c = true := by
    intro index
    by_cases isFirst : index = 0
    · have feed : separator index = ['\n'] := if_pos isFirst
      rw [feed]
      exact ⟨List.cons_ne_nil _ _, List.forall_mem_singleton.mpr rfl⟩
    · have spaces : separator index = ['\r', '\u3000'] := if_neg isFirst
      rw [spaces]
      exact ⟨List.cons_ne_nil _ _, List.all_eq_true.mp rfl⟩
  have whole : Text.spaced separator (tokens.map (·.literal)) = "'\"'\n/\r\u3000\"*/\"".toList := rfl
  have found := tokenize_spaced scanned blank
  rw [whole] at found
  exact ⟨scanned, whole, found⟩

end Lexical
