/-
Module: Lexical.Proofs.InStep
Layer: Proofs
Purpose: The removal of comments and the grammar stay in step. Where the source goes on at the start of a
  part, or inside a block comment, the piece that the grammar cuts off the stripped line ends at such a
  place again (`Comment.InStep.step`). The one exception is a quotation mark between two apostrophes,
  which is a lexeme to the grammar and may begin a string to the removal of comments. Without it, every
  lexeme of a stripped line is made of the characters that stand in the source.
Imports: Lexical.Proofs.Marks, Lexical.Proofs.SourceReading
Main exports: Comment.Boundary, Comment.InStep, Comment.InStep.step, Comment.InStep.lexemes_stand,
  Comment.Parted.inStep_behind
-/

import Lexical.Proofs.Marks
import Lexical.Proofs.SourceReading

namespace Lexical

/-- Word characters are neither blanks nor quotation marks. -/
theorem solid_of_continuesWord {c : Char} (continues : Text.continuesWord c = true) :
    Text.isBlank c = false ∧ c ≠ '"' := by
  refine ⟨Text.isBlank_of_continuesWord continues, ?_⟩
  rintro rfl
  exact Bool.false_ne_true continues

theorem solid_of_isSymbolChar {c : Char} (symbolChar : Text.isSymbolChar c = true) :
    Text.isBlank c = false ∧ c ≠ '"' := by
  simp only [Text.isSymbolChar, Bool.and_eq_true, bne_iff_ne] at symbolChar
  exact ⟨Text.isBlank_of_isSign symbolChar.1.1.1, symbolChar.1.2⟩

namespace Comment

variable {mark : Mark} {marks kept later : List Mark}

/-- The characters are those of a text that is cut into parts from its start. -/
def Boundary (marks : List Mark) : Prop :=
  ∃ text parted, Parted text parted ∧ parted.flatMap Part.marks = marks

/-- The characters are what is left of a block comment, and behind it those of a text that is cut into
parts. -/
inductive InStep : List Mark → Prop where
  | boundary {marks : List Mark} (boundary : Boundary marks) : InStep marks
  | block {mark : Mark} {marks : List Mark} (inside : mark.found? = some .block)
      (onward : InStep marks) : InStep (mark :: marks)

/-- Strings are seen as they are. -/
theorem Part.map_visible_string (text : Text) :
    (Part.marks (some .string, text)).map Mark.visible = text := by
  rw [Part.marks, List.map_map]
  exact List.map_id _

/-- At the start of a part, nothing is found and the next part begins behind the character, or the part is
what is found. -/
theorem Boundary.cases_cons (boundary : Boundary (mark :: marks)) :
    (mark.found? = none ∧ Clear ((mark :: marks).map Mark.c) ∧ Boundary marks) ∨
      ∃ found passed behind, Stands found passed (behind.map Mark.c) ∧
        mark :: marks = Part.marks (some found, passed) ++ behind ∧ Boundary behind := by
  obtain ⟨text, parted, cut, whole⟩ := boundary
  cases cut with
  | nil => exact absurd whole (List.cons_ne_nil _ _).symm
  | @gap c rest parted clear onward =>
      obtain ⟨rfl, rfl⟩ := List.cons.inj whole
      rw [← onward.map_c] at clear
      exact Or.inl ⟨rfl, clear, rest, parted, onward, rfl⟩
  | @hit found passed rest parted stands onward =>
      rw [← onward.map_c] at stands
      exact Or.inr ⟨found, passed, _, stands, whole.symm, rest, parted, onward, rfl⟩

/-- What is found belongs to a comment or begins with a quotation mark. -/
theorem Boundary.clear_or_quote (boundary : Boundary (mark :: marks))
    (noBlock : mark.found? ≠ some .block) (noLine : mark.found? ≠ some .line) :
    (Clear ((mark :: marks).map Mark.c) ∧ Boundary marks) ∨ mark.visible = '"' := by
  rcases boundary.cases_cons with ⟨-, clear, onward⟩ | ⟨found, passed, behind, stands, whole, -⟩
  · exact Or.inl ⟨clear, onward⟩
  · obtain ⟨c, passed, rfl⟩ := List.exists_cons_of_ne_nil stands.passed_ne_nil
    obtain ⟨rfl, -⟩ := List.cons.inj whole
    cases stands with
    | string => exact Or.inr rfl
    | block => exact absurd rfl noBlock
    | line => exact absurd rfl noLine

/-- A character that does not look blank is no part of a block comment. -/
theorem Mark.not_block_of_full (full : Text.isBlank mark.visible = false) :
    mark.found? ≠ some .block := by
  intro isBlock
  rw [Mark.visible, if_pos isBlock] at full
  exact Bool.false_ne_true full.symm

/-- A character that does not look blank looks as it is. -/
theorem Mark.c_eq {c : Char} (seen : mark.visible = c) (full : Text.isBlank c = false) : mark.c = c := by
  subst seen
  exact (if_neg (Mark.not_block_of_full full)).symm

/-- Characters that are neither blanks nor quotation marks are parts by themselves. -/
theorem Boundary.solid {run : List Mark} (boundary : Boundary (run ++ marks))
    (noLine : ∀ mark ∈ run, mark.found? ≠ some .line)
    (full : ∀ c ∈ run.map Mark.visible, Text.isBlank c = false ∧ c ≠ '"') :
    Boundary marks ∧ run.map Mark.c = run.map Mark.visible := by
  induction run with
  | nil => exact ⟨boundary, rfl⟩
  | cons mark run ih =>
      obtain ⟨here, furtherNoLine⟩ := List.forall_mem_cons.mp noLine
      obtain ⟨⟨notBlank, noQuote⟩, furtherFull⟩ := List.forall_mem_cons.mp full
      have outside := Mark.not_block_of_full notBlank
      obtain ⟨-, onward⟩ := (boundary.clear_or_quote outside here).resolve_right noQuote
      obtain ⟨behind, same⟩ := ih onward furtherNoLine furtherFull
      refine ⟨behind, ?_⟩
      rw [List.map_cons, List.map_cons, same, Mark.c_eq rfl notBlank]

/-- Kept characters of a line hold all of a run that neither has a line feed nor is dropped. -/
theorem Mark.Kept.exists_behind {run behind : List Mark} (ends : Mark.Kept kept later)
    (whole : kept ++ later = run ++ behind)
    (ordinary : ∀ mark ∈ run, mark.c ≠ '\n' ∧ mark.found? ≠ some .line) :
    ∃ keptBehind, kept = run ++ keptBehind ∧ behind = keptBehind ++ later := by
  rcases List.append_eq_append_iff.mp whole with ⟨extra, runEq, laterEq⟩ | ⟨extra, keptEq, behindEq⟩
  · cases extra with
    | nil =>
        rw [List.append_nil] at runEq
        exact ⟨[], by rw [runEq, List.append_nil], laterEq.symm⟩
    | cons next extra =>
        obtain ⟨noFeed, noLine⟩ := ordinary next (by simp [runEq])
        rcases ends.ends next (by rw [laterEq]; rfl) with isFeed | isLine
        · exact absurd isFeed noFeed
        · exact absurd isLine noLine
  · exact ⟨extra, keptEq, behindEq⟩

/-- In front of what is in step, any number of characters of a block comment can stand. -/
theorem InStep.of_block {inside : List Mark} (all : ∀ mark ∈ inside, mark.found? = some .block)
    (inStep : InStep marks) : InStep (inside ++ marks) := by
  induction inside with
  | nil => exact inStep
  | cons mark inside ih =>
      obtain ⟨here, further⟩ := List.forall_mem_cons.mp all
      exact .block here (ih further)

/-- Inside a block comment each character can be passed over. -/
theorem InStep.tail_of_block (inStep : InStep (mark :: marks)) (inside : mark.found? = some .block) :
    InStep marks := by
  cases inStep with
  | block _ onward => exact onward
  | boundary boundary =>
      rcases boundary.cases_cons with ⟨none, -, -⟩ | ⟨found, passed, behind, stands, whole, onward⟩
      · exact absurd (none.symm.trans inside) (by simp)
      · obtain ⟨c, passed, rfl⟩ := List.exists_cons_of_ne_nil stands.passed_ne_nil
        obtain ⟨rfl, rfl⟩ := List.cons.inj whole
        obtain rfl : found = .block := Option.some.inj inside
        apply InStep.of_block _ (.boundary onward)
        intro next member
        obtain ⟨d, -, rfl⟩ := List.mem_map.mp member
        rfl

/-- Behind a line feed a line begins in step. -/
theorem Parted.inStep_behind {text : Text} {parted : List Part} {before : List Mark}
    (cut : Parted text parted) (whole : parted.flatMap Part.marks = before ++ mark :: marks)
    (feed : mark.c = '\n') : InStep marks := by
  induction cut generalizing before with
  | nil => exact absurd whole (by simp)
  | @gap c rest parted clear onward ih =>
      cases before with
      | nil =>
          obtain ⟨rfl, rfl⟩ := List.cons.inj whole
          exact .boundary ⟨rest, parted, onward, rfl⟩
      | cons first before => exact ih (List.cons.inj whole).2
  | @hit found passed rest parted stands onward ih =>
      rw [List.flatMap_cons] at whole
      rcases List.append_eq_append_iff.mp whole with ⟨extra, rfl, behind⟩ | ⟨extra, inside, behind⟩
      · exact ih behind
      · cases extra with
        | nil =>
            have onwardWhole : parted.flatMap Part.marks = [] ++ mark :: marks := behind.symm
            exact ih onwardWhole
        | cons next extra =>
            obtain ⟨rfl, rfl⟩ := List.cons.inj behind
            have all : ∀ next ∈ before ++ mark :: extra, next.found? = some found ∧ next.c ∈ passed := by
              rw [← inside]
              intro next member
              obtain ⟨c, inPassed, rfl⟩ := List.mem_map.mp member
              exact ⟨rfl, inPassed⟩
            have inPassed := (all mark (by simp)).2
            rw [feed] at inPassed
            cases stands with
            | string free oneLine => exact absurd inPassed (by simp [oneLine])
            | line oneLine => exact absurd inPassed (by simp [oneLine])
            | block =>
                apply InStep.of_block _ (.boundary ⟨rest, parted, onward, rfl⟩)
                exact fun next member => (all next (by simp [member])).1

/-- Every line of a source begins in step. -/
theorem inStep_of_split {source : Text} {before : List Mark}
    (split : Comment.marks source = before ++ later)
    (feed : ∀ mark ∈ before.getLast?, mark.c = '\n') : InStep later := by
  rcases List.eq_nil_or_concat before with rfl | ⟨front, last, rfl⟩
  · exact .boundary ⟨source, parts source, parted_parts source, split⟩
  · rw [List.concat_eq_append, List.append_assoc] at split
    apply (parted_parts source).inStep_behind split
    exact feed last (by rw [List.concat_eq_append, List.getLast?_concat]; rfl)

/-! ### One piece -/

/-- The grammar sees no comment at the start of a part that is none. -/
theorem Boundary.not_comment {stretch : List Mark} {text rest : Text}
    (boundary : Boundary (stretch ++ marks)) (noLine : ∀ mark ∈ stretch, mark.found? ≠ some .line)
    (outside : ∀ mark ∈ stretch.head?, mark.found? ≠ some .block)
    (forced : Forced (.comment text) rest) (seen : stretch.map Mark.visible = text) : False := by
  generalize same : Piece.comment text = piece at forced
  cases forced with
  | blank | string | char | symbol | word | whole | fraction => exact absurd same (by simp)
  | lineComment =>
      obtain rfl := Piece.comment.inj same
      obtain ⟨first, more, rfl, firstSeen, seenMore⟩ := List.map_eq_cons_iff.mp seen
      obtain ⟨second, more, rfl, secondSeen, -⟩ := List.map_eq_cons_iff.mp seenMore
      have opened : Boundary (first :: (second :: (more ++ marks))) := boundary
      rcases opened.clear_or_quote (outside first rfl) (noLine first List.mem_cons_self) with
        ⟨clear, -⟩ | quote
      · rw [List.map_cons, List.map_cons, Mark.c_eq firstSeen rfl, Mark.c_eq secondSeen rfl] at clear
        exact clear.not_line
      · exact absurd (firstSeen.symm.trans quote) (by decide)
  | blockComment =>
      obtain rfl := Piece.comment.inj same
      obtain ⟨first, more, rfl, firstSeen, seenMore⟩ := List.map_eq_cons_iff.mp seen
      obtain ⟨second, more, rfl, secondSeen, seenBody⟩ := List.map_eq_cons_iff.mp seenMore
      obtain ⟨middle, more, rfl, -, seenEnd⟩ := List.map_eq_append_iff.mp seenBody
      obtain ⟨third, more, rfl, thirdSeen, seenLast⟩ := List.map_eq_cons_iff.mp seenEnd
      obtain ⟨fourth, rfl, fourthSeen⟩ := List.map_eq_singleton_iff.mp seenLast
      have opened : Boundary (first :: (second :: (middle ++ [third, fourth] ++ marks))) := boundary
      rcases opened.clear_or_quote (outside first rfl) (noLine first List.mem_cons_self) with
        ⟨clear, -⟩ | quote
      · simp only [List.map_cons, List.map_append, List.append_assoc, List.cons_append,
          List.nil_append, Mark.c_eq firstSeen rfl, Mark.c_eq secondSeen rfl, Mark.c_eq thirdSeen rfl,
          Mark.c_eq fourthSeen rfl] at clear
        exact clear.not_block
      · exact absurd (firstSeen.symm.trans quote) (by decide)

/-- A string that the grammar sees is one that the removal of comments finds. -/
theorem Boundary.string {stretch behind : List Mark} {body : Text}
    (boundary : Boundary (stretch ++ (behind ++ later))) (ends : Mark.Kept (stretch ++ behind) later)
    (outside : ∀ mark ∈ stretch.head?, mark.found? ≠ some .block) (oneLine : '\n' ∉ body)
    (free : '"' ∉ body) (seen : stretch.map Mark.visible = '"' :: (body ++ ['"'])) :
    Boundary (behind ++ later) ∧ stretch.map Mark.c = '"' :: (body ++ ['"']) := by
  obtain ⟨first, more, rfl, firstSeen, seenMore⟩ := List.map_eq_cons_iff.mp seen
  have opened : Boundary (first :: (more ++ (behind ++ later))) := boundary
  have noLine : first.found? ≠ some .line := ends.noLine first List.mem_cons_self
  rcases opened.cases_cons with ⟨-, clear, -⟩ | ⟨found, passed, onward, stands, whole, boundaryOnward⟩
  · -- the removal of comments would find the string, too
    obtain ⟨middle, more, rfl, -, seenEnd⟩ := List.map_eq_append_iff.mp seenMore
    obtain ⟨last, rfl, lastSeen⟩ := List.map_eq_singleton_iff.mp seenEnd
    simp only [List.map_cons, List.map_append, List.append_assoc, List.cons_append, List.nil_append,
      Mark.c_eq firstSeen rfl, Mark.c_eq lastSeen rfl] at clear
    obtain ⟨mark, inMiddle, feed⟩ := List.mem_map.mp clear.unclosed
    exact absurd feed (ends.oneLine mark (by simp [inMiddle]))
  · cases stands with
    | block =>
        obtain ⟨rfl, -⟩ := List.cons.inj whole
        exact absurd rfl (outside _ rfl)
    | line =>
        obtain ⟨rfl, -⟩ := List.cons.inj whole
        exact absurd rfl noLine
    | @string other _ freeOther oneLineOther =>
        have ordinary : ∀ mark ∈ Part.marks (some .string, '"' :: (other ++ ['"'])),
            mark.c ≠ '\n' ∧ mark.found? ≠ some .line := by
          intro mark member
          obtain ⟨c, inPassed, rfl⟩ := List.mem_map.mp member
          refine ⟨?_, by simp⟩
          rintro rfl
          simp [oneLineOther] at inPassed
        rw [← List.cons_append, ← List.append_assoc] at whole
        obtain ⟨keptBehind, keptEq, rfl⟩ := ends.exists_behind whole ordinary
        have texts : '"' :: (body ++ ['"']) ++ behind.map Mark.visible =
            '"' :: (other ++ ['"']) ++ keptBehind.map Mark.visible := by
          rw [← seen, ← List.map_append, keptEq, List.map_append, Part.map_visible_string]
        have same := Forced.unique (.string oneLine free) (.string oneLineOther freeOther) texts
        obtain rfl : body = other := by simpa using same
        have sameLength : (first :: more).length =
            (Part.marks (some .string, '"' :: (body ++ ['"']))).length := by
          rw [← List.length_map Mark.visible, seen, Part.marks, List.length_map]
        obtain ⟨stretchEq, rfl⟩ := List.append_inj keptEq sameLength
        exact ⟨boundaryOnward, by rw [stretchEq, Part.map_c]⟩

/-- A quoted character that the grammar sees stands in the source, unless it is a quotation mark. -/
theorem Boundary.char {stretch : List Mark} {body : Text} (boundary : Boundary (stretch ++ marks))
    (noLine : ∀ mark ∈ stretch, mark.found? ≠ some .line)
    (noMark : ¬ ['\'', '"', '\''] <:+: (stretch ++ marks).map Mark.c) (short : body.length ≤ 1)
    (seen : stretch.map Mark.visible = '\'' :: (body ++ ['\''])) :
    Boundary marks ∧ stretch.map Mark.c = '\'' :: (body ++ ['\'']) := by
  have solid : Text.isBlank '\'' = false ∧ '\'' ≠ '"' := ⟨rfl, by decide⟩
  match body, short with
  | [], _ =>
      obtain ⟨onward, same⟩ := boundary.solid noLine (by simp [seen, solid])
      exact ⟨onward, same.trans seen⟩
  | [d], _ =>
      obtain ⟨first, more, rfl, firstSeen, seenMore⟩ := List.map_eq_cons_iff.mp seen
      obtain ⟨middle, more, rfl, middleSeen, seenEnd⟩ := List.map_eq_cons_iff.mp seenMore
      obtain ⟨last, rfl, lastSeen⟩ := List.map_eq_singleton_iff.mp seenEnd
      have firstChar : first.c = '\'' := Mark.c_eq firstSeen rfl
      have lastChar : last.c = '\'' := Mark.c_eq lastSeen rfl
      have middleNoLine : middle.found? ≠ some .line := noLine middle (by simp)
      have behindFirst : Boundary (middle :: last :: marks) :=
        (@Boundary.solid _ [first] boundary (by simp [noLine]) (by simp [firstSeen, solid])).1
      rcases behindFirst.cases_cons with ⟨none, -, behindMiddle⟩ | ⟨found, passed, _, stands, whole, -⟩
      · have middleChar : middle.c = d := by
          rw [← middleSeen, Mark.visible, none]
          rfl
        refine ⟨?_, by simp [firstChar, middleChar, lastChar]⟩
        exact (@Boundary.solid _ [last] behindMiddle (by simp [noLine]) (by simp [lastSeen, solid])).1
      · cases stands with
        | string =>
            obtain ⟨rfl, -⟩ := List.cons.inj whole
            exact absurd ⟨[], marks.map Mark.c, by simp [firstChar, lastChar]⟩ noMark
        | block =>
            obtain ⟨rfl, more⟩ := List.cons.inj whole
            obtain ⟨rfl, -⟩ := List.cons.inj more
            have looksBlank : ' ' = '\'' := lastSeen
            exact absurd looksBlank (by decide)
        | line =>
            obtain ⟨rfl, -⟩ := List.cons.inj whole
            exact absurd rfl middleNoLine

/-- At the start of a part that is no block comment, the piece that is cut off ends at the start of another
part, and a lexeme is made of the characters that stand there. -/
theorem Boundary.step {stretch behind : List Mark} {piece : Piece} {rest : Text}
    (boundary : Boundary (stretch ++ (behind ++ later))) (ends : Mark.Kept (stretch ++ behind) later)
    (outside : ∀ mark ∈ stretch.head?, mark.found? ≠ some .block)
    (noMark : ¬ ['\'', '"', '\''] <:+: (stretch ++ (behind ++ later)).map Mark.c)
    (forced : Forced piece rest) (seen : stretch.map Mark.visible = piece.text) :
    Boundary (behind ++ later) ∧
      ∀ category literal, piece = .lexeme category literal → stretch.map Mark.c = literal := by
  have noLine : ∀ mark ∈ stretch, mark.found? ≠ some .line := fun mark member =>
    ends.noLine mark (List.mem_append_left _ member)
  have ofSolid : ∀ {category literal}, piece = .lexeme category literal →
      (∀ c ∈ literal, Text.isBlank c = false ∧ c ≠ '"') → Boundary (behind ++ later) ∧
        ∀ category literal, piece = .lexeme category literal → stretch.map Mark.c = literal := by
    rintro category literal rfl full
    obtain ⟨onward, same⟩ := boundary.solid noLine (by rwa [seen])
    refine ⟨onward, fun _ _ equal => ?_⟩
    obtain ⟨-, rfl⟩ := Piece.lexeme.inj equal
    exact same.trans seen
  have ofQuote : ∀ {category literal}, piece = .lexeme category literal →
      Boundary (behind ++ later) ∧ stretch.map Mark.c = literal → Boundary (behind ++ later) ∧
        ∀ category literal, piece = .lexeme category literal → stretch.map Mark.c = literal := by
    rintro category literal rfl ⟨onward, same⟩
    refine ⟨onward, fun _ _ equal => ?_⟩
    obtain ⟨-, rfl⟩ := Piece.lexeme.inj equal
    exact same
  cases forced with
  | blank blank =>
      obtain ⟨mark, rfl, markSeen⟩ := List.map_eq_singleton_iff.mp seen
      have noQuote : mark.visible ≠ '"' := by
        rintro quote
        rw [← markSeen, quote] at blank
        exact Bool.false_ne_true blank
      have opened : Boundary (mark :: (behind ++ later)) := boundary
      have head := opened.clear_or_quote (outside mark rfl) (noLine mark List.mem_cons_self)
      exact ⟨(head.resolve_right noQuote).2, nofun⟩
  | lineComment oneLine =>
      exact (boundary.not_comment noLine outside (.lineComment oneLine) seen).elim
  | blockComment oneLine first =>
      exact (boundary.not_comment noLine outside (@Forced.blockComment _ [] oneLine first) seen).elim
  | string oneLine free => exact ofQuote rfl (boundary.string ends outside oneLine free seen)
  | char _ _ short => exact ofQuote rfl (boundary.char noLine noMark short seen)
  | symbol member =>
      apply ofSolid rfl
      exact fun c inSymbol => solid_of_isSymbolChar (symbolChars_of_mem_symbolTable _ member c inSymbol)
  | word begins continues =>
      apply ofSolid rfl
      have first := solid_of_continuesWord (Text.continuesWord_of_beginsWord begins)
      exact List.forall_mem_cons.mpr ⟨first, fun c inRun => solid_of_continuesWord (continues c inRun)⟩
  | whole _ all =>
      apply ofSolid rfl
      exact fun c inDigits => solid_of_continuesWord (Text.continuesWord_of_isDigit (all c inDigits))
  | fraction _ all _ allDecimals =>
      apply ofSolid rfl
      have digit : ∀ c, c.isDigit = true → Text.isBlank c = false ∧ c ≠ '"' := fun c isDigit =>
        solid_of_continuesWord (Text.continuesWord_of_isDigit isDigit)
      have point : Text.isBlank '.' = false ∧ '.' ≠ '"' := ⟨rfl, by decide⟩
      refine List.forall_mem_append.mpr ⟨?_, List.forall_mem_cons.mpr ⟨point, ?_⟩⟩
      · exact fun c inDigits => digit c (all c inDigits)
      · exact fun c inDecimals => digit c (allDecimals c inDecimals)

/-- Where the source goes on in step, it does so behind the piece that the grammar cuts off the stripped
line, and a lexeme is made of the characters that stand there. -/
theorem InStep.step {stretch behind : List Mark} {piece : Piece} {rest : Text}
    (inStep : InStep (stretch ++ (behind ++ later))) (ends : Mark.Kept (stretch ++ behind) later)
    (noMark : ¬ ['\'', '"', '\''] <:+: (stretch ++ (behind ++ later)).map Mark.c)
    (forced : Forced piece rest) (seen : stretch.map Mark.visible = piece.text) :
    InStep (behind ++ later) ∧
      ∀ category literal, piece = .lexeme category literal → stretch.map Mark.c = literal := by
  have nonempty : stretch ≠ [] := by
    rintro rfl
    exact forced.text_ne_nil seen.symm
  obtain ⟨mark, more, rfl⟩ := List.exists_cons_of_ne_nil nonempty
  by_cases isBlock : mark.found? = some .block
  · -- the character is seen as a blank, which is a piece by itself
    have looksBlank : mark.visible = ' ' := if_pos isBlock
    have whole : piece.text ++ rest = ' ' :: (more.map Mark.visible ++ rest) := by
      rw [← seen, List.map_cons, looksBlank]
      rfl
    obtain rfl := forced.eq_blank whole rfl
    obtain rfl : more = [] := List.map_eq_nil_iff.mp (List.cons.inj seen).2
    exact ⟨inStep.tail_of_block isBlock, nofun⟩
  · have outside : ∀ next ∈ (mark :: more).head?, next.found? ≠ some .block := by
      rintro next ⟨⟩
      exact isBlock
    generalize whole : mark :: more ++ (behind ++ later) = marks at inStep
    cases inStep with
    | block inside => 
        obtain ⟨rfl, -⟩ := List.cons.inj whole
        exact absurd inside isBlock
    | boundary boundary =>
        rw [← whole] at boundary
        obtain ⟨onward, same⟩ := boundary.step ends outside noMark forced seen
        exact ⟨.boundary onward, same⟩

/-! ### A whole line -/

/-- The lexemes of a stripped line stand in the line itself, one by one. -/
theorem InStep.lexemes_stand {text : Text} {pieces : List Piece} (cut : Cut text pieces) (column : Nat)
    (inStep : InStep (kept ++ later)) (ends : Mark.Kept kept later)
    (noMark : ¬ ['\'', '"', '\''] <:+: (kept ++ later).map Mark.c) (seen : kept.map Mark.visible = text) :
    ∀ lexeme ∈ lexemesFrom column pieces, ∃ front stretch behind, kept = front ++ (stretch ++ behind) ∧
      lexeme.column = column + front.length ∧ stretch.map Mark.c = lexeme.literal := by
  induction cut generalizing column kept with
  | nil => exact fun lexeme member => absurd member List.not_mem_nil
  | @cons piece rest pieces forced onward ih =>
      obtain ⟨stretch, behind, rfl, seenStretch, seenBehind⟩ := List.map_eq_append_iff.mp seen
      rw [List.append_assoc] at inStep noMark
      obtain ⟨inStepBehind, stands⟩ := inStep.step ends noMark forced seenStretch
      intro lexeme member
      rcases List.mem_append.mp member with here | further
      · refine ⟨[], stretch, behind, rfl, ?_, ?_⟩
        · exact (mem_lexemes here).2
        · cases piece with
          | blank | comment => exact absurd here List.not_mem_nil
          | lexeme category literal =>
              rw [(mem_lexemes here).1]
              exact stands category literal rfl
      · have endsBehind : Mark.Kept behind later := by
          constructor
          · exact fun mark inBehind => ends.oneLine mark (List.mem_append_right _ inBehind)
          · exact fun mark inBehind => ends.noLine mark (List.mem_append_right _ inBehind)
          · exact ends.ends
        have noMarkBehind : ¬ ['\'', '"', '\''] <:+: (behind ++ later).map Mark.c := by
          intro inside
          apply noMark
          rw [List.map_append]
          exact List.IsInfix.trans inside (List.suffix_append _ _).isInfix
        obtain ⟨front, inner, after, rfl, place, same⟩ :=
          ih (column + piece.text.length) inStepBehind endsBehind noMarkBehind seenBehind lexeme further
        refine ⟨stretch ++ front, inner, after, (List.append_assoc ..).symm, ?_, same⟩
        rw [place, List.length_append, ← seenStretch, List.length_map, Nat.add_assoc]

end Comment

end Lexical
