/-
Module: Lexical.Proofs.SignMatches
Layer: Proofs
Purpose: Where the rules for comments, quotes, symbols, blank texts and unknown characters match. None of
  them looks at the character before the place. The five rules for symbols are taken together: their
  symbols, in the order in which they are tried, never come behind a symbol that they begin with
  (`tried_pairwise`), so the first that fits is the longest that fits.
Imports: Lexical.Proofs.Pieces
Main exports: Grammar.comment_line, Grammar.comment_block, Grammar.comment_none, Grammar.quoted_some,
  Grammar.quoted_none, Grammar.quote_of_match?, Grammar.symbols_some, Grammar.symbols_none, Grammar.blank_none,
  Grammar.unknown_some
-/

import Lexical.Proofs.Pieces

namespace Lexical.Grammar

variable {place : Place} {c : Char} {body rest : Text}

theorem holds_notLineFeed (c : Char) : CharClass.notLineFeed.holds c = true ↔ c ≠ '\n' := by
  simp [CharClass.holds]

theorem all_notLineFeed (oneLine : '\n' ∉ body) :
    ∀ d ∈ body, CharClass.notLineFeed.holds d = true := by
  intro d member
  rw [holds_notLineFeed]
  rintro rfl
  exact oneLine member

/-! ### Comments -/

/-- The pattern of a comment to the end of the text. -/
def lineCommentPattern : Pattern :=
  .seq (.literal "//".toList) (.seq (.many .notLineFeed .longest) .textEnd)

/-- The pattern of a comment up to its closing mark. -/
def blockCommentPattern : Pattern :=
  .seq (.literal "/*".toList) (.seq (.many .notLineFeed .shortest) (.literal "*/".toList))

theorem comment_match?_eq (place : Place) :
    commentRule.pattern.match? place =
      (lineCommentPattern.match? place).or (blockCommentPattern.match? place) :=
  Pattern.match?_alt _ _ place

/-- A run up to the end of the text ends there, or nowhere if a character is in the way that the class does
not hold. -/
theorem longest_then_textEnd (cls : CharClass) {text : Text} (split : place.rest = text) :
    (Pattern.seq (.many cls .longest) .textEnd).match? place =
      if text.all cls.holds then some (place.past text) else none := by
  obtain ⟨run, after, rfl, all, stops⟩ := Text.exists_run cls.holds text
  have search : (Pattern.seq (.many cls .longest) .textEnd).match? place =
      Pattern.textEnd.match? (place.past run) := by
    refine Pattern.match?_longest_then _ split all stops fun before d later runEq => ?_
    have notAtEnd : (place.past before).rest = d :: later ++ after := by
      apply Place.rest_past
      rw [split, runEq, List.append_assoc]
    rw [Pattern.match?_textEnd, notAtEnd]
    exact if_neg (List.cons_ne_nil _ _)
  rw [search, Pattern.match?_textEnd, Place.rest_past split]
  cases after with
  | nil => rw [if_pos rfl, List.append_nil, if_pos (List.all_eq_true.mpr all)]
  | cons d after =>
      have refused : ¬ (run ++ d :: after).all cls.holds = true := by
        rw [List.all_append, List.all_cons, Text.stopsRun_cons.mp stops, Bool.false_and,
          Bool.and_false]
        exact Bool.false_ne_true
      rw [if_neg (List.cons_ne_nil _ _), if_neg refused]

theorem comment_line (split : place.rest = '/' :: '/' :: body) (oneLine : '\n' ∉ body) :
    commentRule.pattern.match? place = some (place.past ('/' :: '/' :: body)) := by
  have stands : "//".toList <+: place.rest := ⟨body, split.symm⟩
  have behind : (place.past "//".toList).rest = body := Place.rest_past split
  rw [comment_match?_eq, lineCommentPattern, Pattern.match?_literal_then _ stands,
    longest_then_textEnd _ behind, if_pos (List.all_eq_true.mpr (all_notLineFeed oneLine)), Option.some_or]
  rfl

theorem comment_block (split : place.rest = '/' :: '*' :: (body ++ '*' :: '/' :: rest))
    (oneLine : '\n' ∉ body) (first : ¬ ['*', '/'] <:+: body ++ ['*']) :
    commentRule.pattern.match? place =
      some (place.past ('/' :: '*' :: (body ++ ['*', '/']))) := by
  have stands : "/*".toList <+: place.rest := ⟨body ++ '*' :: '/' :: rest, split.symm⟩
  have noLine : ¬ "//".toList <+: place.rest := by
    rw [split]
    simp [List.cons_prefix_cons]
  have behind : (place.past "/*".toList).rest = body ++ ("*/".toList ++ rest) :=
    Place.rest_past split
  rw [comment_match?_eq, lineCommentPattern, Pattern.match?_literal_then_none _ noLine,
    Option.none_or, blockCommentPattern, Pattern.match?_literal_then _ stands,
    Pattern.match?_shortest_then_literal behind (all_notLineFeed oneLine)
      (Text.firstMark_commentEnd.mpr first)]
  rfl

theorem not_commentAt (split : place.rest = c :: rest) (other : c ≠ '/') : ¬ CommentAt place.rest := by
  rw [split]
  rintro (⟨body, same, _⟩ | ⟨body, after, same, _⟩)
  · exact other (List.cons.inj same).1
  · exact other (List.cons.inj same).1

theorem comment_none (noComment : ¬ CommentAt place.rest) :
    commentRule.pattern.match? place = none := by
  rw [comment_match?_eq, Option.or_eq_none_iff]
  constructor
  · by_cases stands : "//".toList <+: place.rest
    · obtain ⟨body, split⟩ := stands
      have lineFeed : ¬ body.all CharClass.notLineFeed.holds = true := by
        intro oneLine
        refine noComment (Or.inl ⟨body, split.symm, fun member => ?_⟩)
        exact (holds_notLineFeed _).mp (List.all_eq_true.mp oneLine _ member) rfl
      rw [lineCommentPattern, Pattern.match?_literal_then _ ⟨body, split⟩,
        longest_then_textEnd _ (Place.rest_past split.symm), if_neg lineFeed]
    · rw [lineCommentPattern, Pattern.match?_literal_then_none _ stands]
  · by_cases stands : "/*".toList <+: place.rest
    · obtain ⟨after, split⟩ := stands
      rw [blockCommentPattern, Pattern.match?_literal_then _ ⟨after, split⟩]
      refine Pattern.match?_shortest_then_literal_none fun body rest splitAfter => ?_
      rw [Place.rest_past split.symm] at splitAfter
      have lineFeed : '\n' ∈ body := by
        refine Decidable.byContradiction fun oneLine => noComment (Or.inr ⟨body, rest, ?_, oneLine⟩)
        rw [← split, splitAfter]
        rfl
      exact ⟨'\n', lineFeed, by decide⟩
    · rw [blockCommentPattern, Pattern.match?_literal_then_none _ stands]

/-! ### Quotes -/

theorem quoted_some {mark : Char} (split : place.rest = mark :: (body ++ mark :: rest))
    (oneLine : '\n' ∉ body) (first : mark ∉ body) :
    (quotedPattern mark).match? place = some (place.past (mark :: (body ++ [mark]))) := by
  have behind : (place.past [mark]).rest = body ++ ([mark] ++ rest) := Place.rest_past split
  rw [quotedPattern, Pattern.match?_literal_then _ ⟨_, split.symm⟩, Pattern.match?_group_then,
    Pattern.match?_shortest_then_literal behind (all_notLineFeed oneLine)
      (Text.firstMark_singleton.mpr first)]
  rfl

/-- There is no quote where no mark opens one, or where the mark is not closed on its line. -/
theorem quoted_none {mark : Char}
    (unclosed : ∀ body later, place.rest = mark :: (body ++ mark :: later) → '\n' ∈ body) :
    (quotedPattern mark).match? place = none := by
  by_cases opens : [mark] <+: place.rest
  · obtain ⟨after, split⟩ := opens
    rw [quotedPattern, Pattern.match?_literal_then _ ⟨after, split⟩, Pattern.match?_group_then]
    refine Pattern.match?_shortest_then_literal_none fun body later splitAfter => ?_
    rw [Place.rest_past split.symm] at splitAfter
    exact ⟨'\n', unclosed body later (by rw [← split, splitAfter]; rfl), by decide⟩
  · rw [quotedPattern, Pattern.match?_literal_then_none _ opens]

theorem quoted_none_of_ne {mark : Char} (split : place.rest = c :: rest) (other : c ≠ mark) :
    (quotedPattern mark).match? place = none := by
  apply quoted_none
  intro body later opened
  rw [split] at opened
  exact absurd (List.cons.inj opened).1 other

/-- A quote is a mark, what stands between, and the mark again. -/
theorem quote_of_match? {mark : Char} {later : Place}
    (matched : (quotedPattern mark).match? place = some later) :
    ∃ body, place.rest = mark :: (body ++ mark :: later.rest) ∧
      later = place.past (mark :: (body ++ [mark])) := by
  obtain ⟨opened, opens, onward⟩ := List.mem_flatMap.mp (List.mem_of_head? matched)
  obtain ⟨closing, inside, closes⟩ := List.mem_flatMap.mp onward
  have marks {here upto : Place} (reached : upto ∈ (Pattern.literal [mark]).reach here) :
      here.rest = mark :: upto.rest ∧ upto = here.past [mark] := by
    obtain ⟨words, listed, passed⟩ := Pattern.past_of_mem_reach_literals reached
    obtain rfl := List.mem_singleton.mp listed
    exact passed
  obtain ⟨splitOpened, rfl⟩ := marks opens
  obtain ⟨body, splitBody, rfl⟩ := Pattern.reach_past inside
  obtain ⟨splitClosing, rfl⟩ := marks closes
  refine ⟨body, ?_, ?_⟩
  · rw [splitOpened, splitBody, splitClosing]
  · change _ = place.past ([mark] ++ (body ++ [mark]))
    rw [Place.past_append, Place.past_append]

/-! ### Symbols -/

/-- The first rule of a grammar is tried first. -/
theorem firstMatch?_cons (rule : Rule) (later : Grammar) (place : Place) :
    firstMatch? (rule :: later) place =
      ((rule.pattern.match? place).map (rule, ·)).or (firstMatch? later place) := by
  rw [firstMatch?, List.findSome?_cons]
  cases rule.pattern.match? place <;> rfl

theorem firstMatch?_append (first second : Grammar) (place : Place) :
    firstMatch? (first ++ second) place =
      (firstMatch? first place).or (firstMatch? second place) :=
  List.findSome?_append

theorem firstMatch?_nil (place : Place) : firstMatch? [] place = none := rfl

theorem firstMatch?_eq_none_iff {grammar : Grammar} :
    firstMatch? grammar place = none ↔ ∀ rule ∈ grammar, rule.pattern.match? place = none := by
  rw [firstMatch?, List.findSome?_eq_none_iff]
  simp only [Option.map_eq_none_iff]

/-- What is found is a match of one of the rules. -/
theorem mem_of_firstMatch? {grammar : Grammar} {rule : Rule} {later : Place}
    (finds : firstMatch? grammar place = some (rule, later)) :
    rule ∈ grammar ∧ rule.pattern.match? place = some later := by
  obtain ⟨known, member, matched⟩ := List.exists_of_findSome?_eq_some finds
  obtain ⟨last, reached, same⟩ := Option.map_eq_some_iff.mp matched
  obtain ⟨rfl, rfl⟩ := Prod.mk.inj same
  exact ⟨member, reached⟩

/-- The rules for symbols, in their order. -/
def symbolRules : Grammar :=
  [comparisonRule, logicalRule, arithmeticRule, delimiterRule, assignmentRule]

/-- The symbols in the order in which they are tried, with their rules. -/
def triedSymbols : List (Rule × Text) :=
  comparisonOperators.map (comparisonRule, ·) ++ logicalOperators.map (logicalRule, ·) ++
    arithmeticOperators.map (arithmeticRule, ·) ++ delimiters.map (delimiterRule, ·) ++
    assignments.map (assignmentRule, ·)

/-- What is tried are the fixed symbols, each in a rule that emits its category. -/
theorem triedSymbols_table :
    triedSymbols.map (fun entry => (entry.1.action, entry.2)) =
      symbolTable.map fun entry => (Action.emit entry.1, entry.2) := by
  decide

/-- No symbol comes behind one that it begins with. -/
theorem tried_pairwise :
    triedSymbols.Pairwise fun earlier later => ¬ earlier.2 <+: later.2 := by
  decide

/-- Symbols that are listed from the longest to the shortest are tried as they are listed. -/
theorem symbols_match?_eq {texts : List Text}
    (sorted : texts.Pairwise fun first second => second.utf8Length ≤ first.utf8Length)
    (place : Place) : (Pattern.symbols texts).match? place = texts.findSome? place.after? := by
  have listed : Pattern.longestListed texts = texts :=
    List.mergeSort_of_pairwise (sorted.imp fun shorter => decide_eq_true shorter)
  rw [Pattern.symbols, listed, Pattern.match?_literals]

/-- The rules for symbols try their symbols one after the other. -/
theorem firstMatch?_symbolRules (place : Place) :
    firstMatch? symbolRules place =
      triedSymbols.findSome? fun entry => (place.after? entry.2).map (entry.1, ·) := by
  have tried (rule : Rule) (texts : List Text)
      (sorted : texts.Pairwise fun first second => second.utf8Length ≤ first.utf8Length)
      (pattern : rule.pattern = Pattern.symbols texts) :
      (rule.pattern.match? place).map (rule, ·) =
        (texts.map (rule, ·)).findSome? fun entry => (place.after? entry.2).map (entry.1, ·) := by
    rw [pattern, symbols_match?_eq sorted, List.map_findSome?, List.findSome?_map]
    rfl
  simp only [symbolRules, firstMatch?_cons, firstMatch?_nil, Option.or_none]
  rw [tried comparisonRule comparisonOperators (by decide) rfl,
    tried logicalRule logicalOperators (by decide) rfl,
    tried arithmeticRule arithmeticOperators (by decide) rfl,
    tried delimiterRule delimiters (by decide) rfl, tried assignmentRule assignments (by decide) rfl]
  simp only [triedSymbols, List.findSome?_append, Option.or_assoc]

/-- The longest symbol that fits is found, by a rule that emits its category. -/
theorem symbols_some {category : Category} {symbol : Text}
    (member : (category, symbol) ∈ symbolTable) (split : place.rest = symbol ++ rest)
    (longest : ∀ entry ∈ symbolTable, entry.2 <+: symbol ++ rest → entry.2.length ≤ symbol.length) :
    ∃ rule, rule.action = .emit category ∧
      firstMatch? symbolRules place = some (rule, place.past symbol) := by
  have inTried : (Action.emit category, symbol) ∈
      triedSymbols.map fun entry => (entry.1.action, entry.2) := by
    rw [triedSymbols_table]
    exact List.mem_map.mpr ⟨_, member, rfl⟩
  obtain ⟨⟨rule, text⟩, memberTried, same⟩ := List.mem_map.mp inTried
  obtain ⟨action, rfl⟩ := Prod.mk.inj same
  obtain ⟨earlier, later, order⟩ := List.append_of_mem memberTried
  refine ⟨rule, action, ?_⟩
  rw [firstMatch?_symbolRules, List.findSome?_eq_some_iff]
  refine ⟨earlier, (rule, text), later, order, ?_, fun entry before => ?_⟩
  · rw [Place.after?_of_stands ⟨rest, split.symm⟩]
    rfl
  · -- an earlier symbol that fits would be no longer, and so a beginning of this one
    rw [Option.map_eq_none_iff, Place.after?_eq_none_iff, split]
    intro fits
    have inTable : (entry.1.action, entry.2) ∈
        symbolTable.map fun entry => (Action.emit entry.1, entry.2) := by
      rw [← triedSymbols_table, order]
      exact List.mem_map.mpr ⟨entry, List.mem_append_left _ before, rfl⟩
    obtain ⟨known, knownMember, knownSame⟩ := List.mem_map.mp inTable
    have sameText : known.2 = entry.2 := (Prod.mk.inj knownSame).2
    have shorter := longest known knownMember (by rwa [sameText])
    rw [sameText] at shorter
    have beginning : entry.2 <+: text :=
      List.prefix_of_prefix_length_le fits (List.prefix_append text rest) shorter
    have pairwise := tried_pairwise
    rw [order, List.pairwise_append] at pairwise
    exact pairwise.2.2 entry before (rule, text) List.mem_cons_self beginning

/-- Where no symbol fits, none is found. -/
theorem symbols_none (noSymbol : ∀ entry ∈ symbolTable, ¬ entry.2 <+: place.rest) :
    firstMatch? symbolRules place = none := by
  rw [firstMatch?_symbolRules, List.findSome?_eq_none_iff]
  intro entry member
  rw [Option.map_eq_none_iff, Place.after?_eq_none_iff]
  have inTable : (entry.1.action, entry.2) ∈
      symbolTable.map fun entry => (Action.emit entry.1, entry.2) := by
    rw [← triedSymbols_table]
    exact List.mem_map.mpr ⟨entry, member, rfl⟩
  obtain ⟨known, knownMember, knownSame⟩ := List.mem_map.mp inTable
  rw [← (Prod.mk.inj knownSame).2]
  exact noSymbol known knownMember

/-- No symbol fits where the text begins with a character that stands in none. -/
theorem no_symbol (split : place.rest = c :: rest) (other : Text.isSymbolChar c = false) :
    ∀ entry ∈ symbolTable, ¬ entry.2 <+: place.rest := by
  rintro ⟨category, symbol⟩ member ⟨after, whole⟩
  cases symbol with
  | nil => exact absurd (length_of_mem_symbolTable _ member).1 (by simp)
  | cons d symbol =>
      rw [split, List.cons_append] at whole
      have symbolChar := symbolChars_of_mem_symbolTable _ member d List.mem_cons_self
      simp [(List.cons.inj whole).1, other] at symbolChar

/-! ### Blank texts and unknown characters -/

/-- At the start of a line, a text that is blank altogether is matched as blank, and nothing else is. -/
theorem blank_match?_eq (split : place.rest = rest) :
    blankRule.pattern.match? place =
      if place.offset = 0 ∧ rest.all Text.isBlank then some (place.past rest) else none := by
  change blankPattern.match? place = _
  rw [blankPattern, Pattern.match?_textStart_then, longest_then_textEnd _ split]
  by_cases atStart : place.offset = 0
  · simp only [atStart, if_true, true_and]
    rfl
  · simp only [atStart, if_false, false_and]

theorem blank_none (split : place.rest = c :: rest) (notBlank : Text.isBlank c = false) :
    blankRule.pattern.match? place = none := by
  rw [blank_match?_eq split]
  apply if_neg
  intro both
  rw [List.all_cons, notBlank, Bool.false_and] at both
  exact Bool.false_ne_true both.2

/-- Unknown characters are taken together as far as they go. -/
theorem unknown_some (split : place.rest = c :: rest) (sign : Text.isSign c = true) :
    unknownRule.pattern.match? place =
      some (place.past ((c :: rest).takeWhile Text.isSign)) := by
  have signEq : signClass.holds = Text.isSign := funext holds_signClass
  obtain ⟨run, after, rfl, all, stops⟩ := Text.exists_run Text.isSign rest
  change unknownPattern.match? place = _
  rw [unknownPattern, Pattern.match?_many1 split, signEq, if_pos sign,
    Pattern.match?_longest (Place.rest_past split) (by rwa [signEq]) (by rwa [signEq]),
    List.takeWhile_cons_of_pos sign, Text.takeWhile_run all stops]
  rfl

theorem unknown_none (split : place.rest = c :: rest) (notSign : Text.isSign c = false) :
    unknownRule.pattern.match? place = none := by
  change unknownPattern.match? place = _
  rw [unknownPattern, Pattern.match?_many1 split, holds_signClass, notSign]
  rfl

end Lexical.Grammar
