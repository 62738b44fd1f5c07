/-
Module: Lexical.Proofs.StrippedReading
Layer: Proofs
Purpose: The two ways to leave out comments agree. Within one line the grammar and the search for comments
  see the same comments, so that the stripped line is read like the line itself (`Reads.strip`): a comment
  leaves blanks behind, or nothing at the end of the line, and every other piece stays as it is. The one
  exception is a quotation mark between two apostrophes, which the grammar takes for a character literal
  and the search for the start of a string. Behind a fault the two may differ, so of a fault only the
  reported characters can get fewer.
Imports: Lexical.Proofs.StrippedLines
Main exports: Comment.strip_char, Forced.strip_append, Forced.strip, Stuck.strip, Reading.Narrows,
  Reads.strip, firstError?_narrows, analyze_of_tokenize
-/

import Lexical.Proofs.StrippedLines

namespace Lexical

open Comment

/-! ### Pieces -/

/-- The only symbol with a slash is the slash. -/
theorem plain_of_mem_symbolTable_of_ne :
    ∀ entry ∈ symbolTable, entry.2 ≠ ['/'] → ∀ c ∈ entry.2, isPlain c = true := by
  have all : symbolTable.all (fun entry => entry.2 == ['/'] || entry.2.all isPlain) = true := by
    decide
  intro entry member noSlash
  have plain := List.all_eq_true.mp all entry member
  rw [Bool.or_eq_true, beq_iff_eq] at plain
  exact List.all_eq_true.mp (plain.resolve_left noSlash)

theorem isPlain_of_isDigit {c : Char} (digit : c.isDigit = true) : isPlain c = true :=
  isPlain_of_isWord (Text.isWord_of_isDigit digit)

/-- A quoted character is left alone, unless it is a quotation mark. -/
theorem Comment.strip_char {body rest : Text} (short : body.length ≤ 1) (notMark : body ≠ ['"'])
    (oneLine : '\n' ∉ rest) :
    strip ('\'' :: (body ++ ['\'']) ++ rest) = '\'' :: (body ++ ['\'']) ++ strip rest := by
  match body, short with
  | [], _ =>
      have all : ∀ d ∈ ['\'', '\''], isPlain d = true :=
        List.forall_mem_cons.mpr ⟨rfl, List.forall_mem_singleton.mpr rfl⟩
      exact strip_plain_append all rest
  | [c], _ =>
      by_cases slash : c = '/'
      · -- the apostrophe behind the slash keeps it from opening a comment
        rw [slash]
        have clear : Clear ('/' :: '\'' :: rest) := by
          apply clear_of_not_commentAt
          · simp [CommentAt]
          · simp [oneLine]
        change strip ('\'' :: '/' :: '\'' :: rest) = '\'' :: '/' :: '\'' :: strip rest
        rw [strip_gap (clear_of_isPlain rfl _), strip_gap clear, strip_gap (clear_of_isPlain rfl _)]
      · have noMark : c ≠ '"' := by
          rintro rfl
          exact notMark rfl
        have plain : isPlain c = true := by simp [isPlain, noMark, slash]
        have all : ∀ d ∈ ['\'', c, '\''], isPlain d = true :=
          List.forall_mem_cons.mpr ⟨rfl, List.forall_mem_cons.mpr ⟨plain, List.forall_mem_singleton.mpr rfl⟩⟩
        exact strip_plain_append all rest

/-- A piece that is no comment is left alone, unless it is a quotation mark between two apostrophes. -/
theorem Forced.strip_append {piece : Piece} {rest : Text} (forced : Forced piece rest)
    (notComment : ∀ text, piece ≠ .comment text) (notMark : piece.text ≠ ['\'', '"', '\''])
    (oneLine : '\n' ∉ rest) : strip (piece.text ++ rest) = piece.text ++ strip rest := by
  cases forced with
  | blank blank =>
      exact strip_plain_append (List.forall_mem_singleton.mpr (isPlain_of_isBlank blank)) rest
  | lineComment => exact absurd rfl (notComment _)
  | blockComment => exact absurd rfl (notComment _)
  | string oneLineBody free => exact strip_hit (.string free oneLineBody)
  | char oneLineBody free short =>
      apply strip_char short _ oneLine
      rintro rfl
      exact notMark rfl
  | @symbol category symbol _ member longest noComment =>
      by_cases slash : symbol = ['/']
      · rw [slash] at noComment ⊢
        exact strip_gap (clear_of_not_commentAt noComment oneLine)
      · exact strip_plain_append (plain_of_mem_symbolTable_of_ne _ member slash) rest
  | word begins continues ends =>
      apply strip_plain_append
      intro c member
      apply isPlain_of_isWord
      apply Text.isWord_of_continuesWord
      rcases List.mem_cons.mp member with rfl | inRun
      · exact Text.continuesWord_of_beginsWord begins
      · exact continues c inRun
  | whole nonempty all =>
      apply strip_plain_append
      intro c member
      exact isPlain_of_isDigit (all c member)
  | fraction nonempty all nonemptyDecimals allDecimals =>
      apply strip_plain_append
      intro c member
      rcases List.mem_append.mp member with inDigits | behind
      · exact isPlain_of_isDigit (all c inDigits)
      · rcases List.mem_cons.mp behind with rfl | inDecimals
        · decide
        · exact isPlain_of_isDigit (allDecimals c inDecimals)

/-- The piece is then forced in the stripped line as well. -/
theorem Forced.strip {piece : Piece} {rest : Text} (forced : Forced piece rest)
    (notComment : ∀ text, piece ≠ .comment text) (oneLine : '\n' ∉ rest) :
    Forced piece (Comment.strip rest) := by
  apply forced.of_opensLike_of_slash (opensLike_strip _) notComment
  exact commentAt_of_strip oneLine

/-! ### Faults -/

/-- In a line without apostrophes, a fault is the same fault in the stripped line, but for the characters
that are reported: these can only get fewer. -/
theorem Stuck.strip {text : Text} {fault : Fault} (stuck : Stuck text fault) (oneLine : '\n' ∉ text)
    (noApostrophe : '\'' ∉ text) :
    ∃ other, Stuck (Comment.strip text) other ∧ other.name = fault.name ∧
      other.literal <+: fault.literal := by
  cases stuck with
  | longChar => exact absurd List.mem_cons_self noApostrophe
  | @openQuote mark rest quote unclosed =>
      rcases quote with rfl | rfl
      · have oneLineRest : '\n' ∉ rest := fun member => oneLine (List.mem_cons_of_mem _ member)
        have notClosed : '"' ∉ rest := by
          intro member
          obtain ⟨body, later, rfl⟩ := List.append_of_mem member
          exact oneLineRest (List.mem_append_left _ (unclosed body later rfl))
        have clear : Clear ('"' :: rest) := by
          intro found passed behind stands whole
          cases stands with
          | string => exact notClosed (by rw [(List.cons.inj whole).2]; simp)
          | block => exact absurd (List.cons.inj whole).1 (by decide)
          | line => exact absurd (List.cons.inj whole).1 (by decide)
        rw [strip_gap clear]
        refine ⟨_, .openQuote (Or.inl rfl) ?_, rfl, (opensLike_strip rest).faultyRun_stands⟩
        intro body later split
        refine absurd ((parted_parts rest).mem_of_mem_strip (by decide) ?_) notClosed
        rw [split]
        simp
      · exact absurd List.mem_cons_self noApostrophe
  | @sign c rest sign noQuote noWord noSymbol =>
      have noSlash : c ≠ '/' := by
        rintro rfl
        exact noSymbol (.arithmeticOperator, ['/']) (by decide) ⟨rest, rfl⟩
      have plain : isPlain c = true := by simp [isPlain, noQuote.1, noSlash]
      have like := opensLike_strip rest
      rw [strip_gap (clear_of_isPlain plain rest)]
      refine ⟨_, .sign sign noQuote noWord ?_, rfl, like.faultyRun_stands⟩
      intro entry member fits
      exact noSymbol entry member ((like.append [c]).symbol_fits member fits)
  | @brokenWord first c run rest begins continues wordAfter foreign =>
      have firstContinues := Text.continuesWord_of_beginsWord begins
      have plain : ∀ d ∈ first :: run, isPlain d = true := by
        intro d member
        apply isPlain_of_isWord
        apply Text.isWord_of_continuesWord
        rcases List.mem_cons.mp member with rfl | inRun
        · exact firstContinues
        · exact continues d inRun
      have like := (opensLike_strip rest).append (run ++ [c])
      simp only [List.append_assoc, List.cons_append, List.nil_append] at like
      rw [← List.cons_append, strip_plain_concat plain (isPlain_of_isWord wordAfter)]
      exact ⟨_, .brokenWord begins continues wordAfter foreign, rfl, like.faultyRun_stands⟩
  | @brokenNumber c digits rest nonempty all wordAfter noDigit =>
      obtain ⟨first, more, rfl⟩ := List.exists_cons_of_ne_nil nonempty
      have plain : ∀ d ∈ first :: more, isPlain d = true := fun d inDigits =>
        isPlain_of_isDigit (all d inDigits)
      have like := (opensLike_strip rest).append (more ++ [c])
      simp only [List.append_assoc, List.cons_append, List.nil_append] at like
      rw [strip_plain_concat plain (isPlain_of_isWord wordAfter)]
      exact ⟨_, .brokenNumber nonempty all wordAfter noDigit, rfl, like.faultyRun_stands⟩

/-! ### Readings -/

/-- The readings agree, but that fewer characters may be reported of a fault. -/
def Reading.Narrows (other reading : Reading) : Prop :=
  other.lexemes = reading.lexemes ∧
    match other.misreading?, reading.misreading? with
    | none, none => True
    | some first, some second =>
        first.column = second.column ∧ first.fault.name = second.fault.name ∧
          first.fault.literal <+: second.fault.literal
    | _, _ => False

theorem Reading.narrows_refl (reading : Reading) : reading.Narrows reading := by
  refine ⟨rfl, ?_⟩
  cases reading.misreading? with
  | none => exact trivial
  | some misreading => exact ⟨rfl, rfl, List.prefix_rfl⟩

/-- More lexemes in front of two readings make no difference. -/
theorem Reading.Narrows.prepend {other reading : Reading} (narrows : other.Narrows reading)
    (lexemes : List Lexeme) :
    Reading.Narrows { other with lexemes := lexemes ++ other.lexemes }
      { reading with lexemes := lexemes ++ reading.lexemes } :=
  ⟨congrArg (lexemes ++ ·) narrows.1, narrows.2⟩

/-- A stripped line is read like the line. The line holds no quotation mark between two apostrophes, and if
it has a fault, no apostrophe at all. -/
theorem Reads.strip {column : Nat} {text : Text} {reading : Reading} (reads : Reads column text reading)
    (oneLine : '\n' ∉ text) (noMark : ¬ ['\'', '"', '\''] <:+: text)
    (readable : reading.misreading? = none ∨ '\'' ∉ text) :
    ∃ other, Reads column (Comment.strip text) other ∧ other.Narrows reading := by
  induction reads with
  | done =>
      rw [strip_nil]
      exact ⟨_, .done, Reading.narrows_refl _⟩
  | @piece column piece rest later forced onward ih =>
      have oneLineRest : '\n' ∉ rest := fun member => oneLine (List.mem_append_right _ member)
      have noMarkRest : ¬ ['\'', '"', '\''] <:+: rest := by
        intro inside
        exact noMark (List.IsInfix.trans inside (List.suffix_append _ _).isInfix)
      have readableRest : later.misreading? = none ∨ '\'' ∉ rest :=
        readable.imp_right fun absent member => absent (List.mem_append_right _ member)
      obtain ⟨other, readsOther, narrows⟩ := ih oneLineRest noMarkRest readableRest
      by_cases someComment : ∃ comment, piece = .comment comment
      · obtain ⟨comment, rfl⟩ := someComment
        cases forced with
        | lineComment oneLineBody =>
            rw [Piece.text, strip_hit (.line oneLineBody (Text.stopsRun_nil _)), strip_nil,
              onward.eq_of_nil]
            exact ⟨_, .done, Reading.narrows_refl _⟩
        | @blockComment body _ oneLineBody first =>
            rw [Piece.text, strip_hit (.block first)]
            refine ⟨other, .blanks_append ?_ ?_, narrows⟩
            · intro c member
              obtain ⟨d, -, shows⟩ := List.mem_map.mp member
              rw [← shows]
              split <;> decide
            · rw [Part.shown, List.length_map]
              exact readsOther
      · have notComment : ∀ comment, piece ≠ .comment comment := fun comment same =>
          someComment ⟨comment, same⟩
        have notMark : piece.text ≠ ['\'', '"', '\''] := fun same =>
          noMark (by rw [same]; exact (List.prefix_append _ rest).isInfix)
        rw [forced.strip_append notComment notMark oneLineRest]
        exact ⟨_, .piece (forced.strip notComment oneLineRest) readsOther, narrows.prepend _⟩
  | @stuck column text fault stuck =>
      have noApostrophe : '\'' ∉ text := readable.resolve_left (by simp)
      obtain ⟨other, stuckOther, sameName, beginning⟩ := stuck.strip oneLine noApostrophe
      exact ⟨_, .stuck stuckOther, rfl, rfl, sameName, beginning⟩
  | @brokenFraction column c digits decimals rest nonempty all nonemptyDecimals allDecimals wordAfter
      noDigit =>
      have plain : ∀ d ∈ digits, isPlain d = true := fun d inDigits =>
        isPlain_of_isDigit (all d inDigits)
      have plainDecimals : ∀ d ∈ decimals, isPlain d = true := fun d inDecimals =>
        isPlain_of_isDigit (allDecimals d inDecimals)
      rw [strip_plain_concat plain rfl, strip_plain_concat plainDecimals (isPlain_of_isWord wordAfter)]
      exact ⟨_, .brokenFraction nonempty all nonemptyDecimals allDecimals wordAfter noDigit,
        Reading.narrows_refl _⟩

theorem readLine_strip_narrows {line : Text} (oneLine : '\n' ∉ line)
    (noMark : ¬ ['\'', '"', '\''] <:+: line)
    (readable : (readLine line).misreading? = none ∨ '\'' ∉ line) :
    (readLine (Comment.strip line)).Narrows (readLine line) := by
  obtain ⟨other, reads, narrows⟩ := (reads_readLine line).strip oneLine noMark readable
  rwa [reads.eq_readLine]

/-- Without a fault the readings are the same. -/
theorem Reading.Narrows.eq_of_none {other reading : Reading} (narrows : other.Narrows reading)
    (noFault : reading.misreading? = none) : other = reading := by
  obtain ⟨lexemes, misreading?⟩ := other
  obtain ⟨lexemesOfReading, _⟩ := reading
  obtain rfl := noFault
  obtain ⟨sameLexemes, agree⟩ := narrows
  cases misreading? with
  | some misreading => exact absurd agree id
  | none => exact congrArg (Reading.mk · none) sameLexemes

/-! ### Sources -/

/-- If the stripped lines are read like the lines, then their first error is the same error, but that fewer
characters may be reported. -/
theorem firstError?_narrows {number : Nat} {lines : List Text} {error : LexicalError}
    (narrows : ∀ line ∈ lines, (readLine (Comment.strip line)).Narrows (readLine line))
    (fails : firstError? number (lines.map readLine) = some error) :
    ∃ other, firstError? number ((lines.map Comment.strip).map readLine) = some other ∧
      other.position = error.position ∧ other.fault.name = error.fault.name ∧
        other.fault.literal <+: error.fault.literal := by
  induction lines generalizing number with
  | nil => exact absurd fails (by simp [firstError?])
  | cons line lines ih =>
      obtain ⟨here, further⟩ := List.forall_mem_cons.mp narrows
      obtain ⟨-, agree⟩ := here
      rw [List.map_cons, firstError?] at fails
      rw [List.map_cons, List.map_cons, firstError?]
      cases ofLine : (readLine line).misreading? with
      | none =>
          cases ofStripped : (readLine (Comment.strip line)).misreading? with
          | some first => simp [ofLine, ofStripped] at agree
          | none =>
              rw [ofLine] at fails
              exact ih further fails
      | some second =>
          cases ofStripped : (readLine (Comment.strip line)).misreading? with
          | none => simp [ofLine, ofStripped] at agree
          | some first =>
              rw [ofLine, ofStripped] at agree
              rw [ofLine] at fails
              obtain rfl := Option.some.inj fails
              obtain ⟨sameColumn, sameName, beginning⟩ := agree
              refine ⟨_, rfl, ?_, sameName, beginning⟩
              exact congrArg (Position.mk number) sameColumn

/-- Where nothing that the search for comments finds runs over a line feed, it agrees with the grammar. A
source without a quotation mark between two apostrophes has the same tokens with and without its comments;
and a source without apostrophes has its first error at the same place, where only the characters that are
reported can get fewer. -/
theorem analyze_of_tokenize {source : Text}
    (separate : ∀ found first last, Segment.hit found first last ∈ segments Comment.find source →
      '\n' ∉ first.textUntil last) :
    (¬ ['\'', '"', '\''] <:+: source →
        ∀ table, tokenize source = .ok table → analyze source = .ok table) ∧
      ('\'' ∉ source → ∀ error, tokenize source = .error error →
        ∃ other, analyze source = .error other ∧ other.position = error.position ∧
          other.fault.name = error.fault.name ∧ other.fault.literal <+: error.fault.literal) := by
  have separateParts : ∀ found passed, (some found, passed) ∈ parts source → '\n' ∉ passed := by
    intro found passed member
    obtain ⟨segment, inSegments, same⟩ := List.mem_map.mp member
    cases segment with
    | gap => simp [part] at same
    | hit covered first last =>
        obtain ⟨-, rfl⟩ := Prod.mk.inj same
        exact separate covered first last inSegments
  have lines : readings (Comment.strip source) =
      ((List.splitOn '\n' source).map Comment.strip).map readLine := by
    rw [readings, (parted_parts source).splitOn_strip separateParts]
  constructor
  · intro noMark table tokenized
    obtain ⟨noError, tokens⟩ := tokenize_eq_ok_iff_readings.mp tokenized
    have sameReadings : readings (Comment.strip source) = readings source := by
      rw [lines, List.map_map]
      apply List.map_congr_left
      intro line member
      obtain ⟨stands, oneLine⟩ := Text.infix_of_mem_splitOn member
      have noFault : (readLine line).misreading? = none :=
        firstError?_eq_none_iff.mp noError _ (List.mem_map_of_mem member)
      have noMarkLine : ¬ ['\'', '"', '\''] <:+: line := fun inside =>
        noMark (List.IsInfix.trans inside stands)
      exact (readLine_strip_narrows oneLine noMarkLine (Or.inl noFault)).eq_of_none noFault
    apply tokenize_eq_ok_iff_readings.mpr
    rw [sameReadings]
    exact ⟨noError, tokens⟩
  · intro noApostrophe error fails
    rw [tokenize_eq_error_iff_readings] at fails
    have narrows : ∀ line ∈ List.splitOn '\n' source,
        (readLine (Comment.strip line)).Narrows (readLine line) := by
      intro line member
      obtain ⟨stands, oneLine⟩ := Text.infix_of_mem_splitOn member
      have absent : '\'' ∉ line := fun inLine => noApostrophe (stands.subset inLine)
      apply readLine_strip_narrows oneLine _ (Or.inr absent)
      exact fun inside => absent (inside.subset List.mem_cons_self)
    obtain ⟨other, failsOther, agree⟩ := firstError?_narrows narrows fails
    rw [← lines] at failsOther
    exact ⟨other, tokenize_eq_error_iff_readings.mpr failsOther, agree⟩

/-- A word with a comment behind it, and an unknown sign with one. -/
theorem analyze_of_tokenize_before_comments :
    analyze "a/**/".toList =
        .ok { entries := #[{ category := .identifier, literal := ['a'], position := ⟨1, 1⟩ }] } ∧
      ∃ other, analyze "$//".toList = .error other ∧ other.position = ⟨1, 1⟩ ∧
        other.fault.name = "UnknownToken".toList ∧ other.fault.literal <+: "$//".toList := by
  constructor
  · have found : segments Comment.find "a/**/".toList =
        [.gap ⟨none, 0, "a/**/".toList⟩ 'a',
          .hit .block ⟨some 'a', 1, "/**/".toList⟩ ⟨some '/', 5, []⟩] := by
      decide
    have separate : ∀ covered first last,
        Segment.hit covered first last ∈ segments Comment.find "a/**/".toList →
          '\n' ∉ first.textUntil last := by
      intro covered first last member
      rw [found] at member
      simp only [List.mem_cons, List.not_mem_nil, reduceCtorEq, Segment.hit.injEq, false_or,
        or_false] at member
      obtain ⟨-, rfl, rfl⟩ := member
      decide
    have word : Forced (.lexeme (wordCategory ['a']) ['a']) "/**/".toList :=
      .word rfl (List.forall_mem_nil _) (Text.stopsRun_cons.mpr rfl)
    have comment : Forced (.comment "/**/".toList) [] :=
      @Forced.blockComment [] [] (by decide) (by decide)
    have cut : Cut "a/**/".toList [.lexeme (wordCategory ['a']) ['a'], .comment "/**/".toList] :=
      .cons word (.cons comment .nil)
    have notKeyword : wordCategory ['a'] = .identifier := by decide
    rw [notKeyword] at cut
    exact (analyze_of_tokenize separate).1 (by decide) _ (tokenize_of_cut rfl cut)
  · have found : segments Comment.find "$//".toList =
        [.gap ⟨none, 0, "$//".toList⟩ '$', .hit .line ⟨some '$', 1, "//".toList⟩ ⟨some '/', 3, []⟩] := by
      decide
    have separate : ∀ covered first last,
        Segment.hit covered first last ∈ segments Comment.find "$//".toList →
          '\n' ∉ first.textUntil last := by
      intro covered first last member
      rw [found] at member
      simp only [List.mem_cons, List.not_mem_nil, reduceCtorEq, Segment.hit.injEq, false_or,
        or_false] at member
      obtain ⟨-, rfl, rfl⟩ := member
      decide
    have stuck : Stuck "$//".toList (.unknownToken (faultyRun "$//".toList)) :=
      .sign (by decide) (by decide) (by decide) (by decide)
    have fails : tokenize "$//".toList = .error ⟨.unknownToken (faultyRun "$//".toList), ⟨1, 1⟩⟩ := by
      have reads : Reads 1 "$//".toList _ := .stuck stuck
      have oneLine : Text.lines "$//".toList = ["$//".toList] := rfl
      rw [tokenize_eq_error_iff, oneLine, List.map_singleton, reads.eq_readLine]
      rfl
    exact (analyze_of_tokenize separate).2 (by decide) _ fails

end Lexical
