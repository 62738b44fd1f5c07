/-
Module: Lexical.Proofs.Sweeps
Layer: Proofs
Purpose: A sweep over a line cuts only where the line has places, never goes back for a column, and finds
  what the reading of the line has. The walk over the line is put together again into gaps and matches
  (`Turns`), in which the sweep goes on. One turn of a sweep that stands at a place (`Sweep.Ready`) comes to
  the place behind the match, or to a fault (`Sweep.turn?_spec`); by induction on the turns so does the
  whole sweep (`Sweep.run?_spec`), and so does a sweep wherever it has come to (`Sweep.Reached.ready`).
Imports: Lexical.Proofs.ColumnTracking
Main exports: judgeGap, Turns, turns_of_walk, Sweep.Ready, Sweep.turn?_spec, Sweep.run?_spec, Sweep.Reached,
  Sweep.overLine?_spec
-/

import Lexical.Proofs.ColumnTracking

namespace Lexical

/-! ### Gaps and matches in turn -/

/-- The verdict on a gap: it is passed over up to its first character that is not blank. -/
def judgeGap (place : Place) : Text → Verdict
  | [] => .skip
  | c :: gap => if Text.isBlank c then judgeGap (place.past [c]) gap else judge (.gap place c)

section Gaps

variable {place : Place} {gap blanks more : Text} {c : Char}

theorem judgeGap_of_blank (blank : ∀ d ∈ gap, Text.isBlank d = true) : judgeGap place gap = .skip := by
  induction gap generalizing place with
  | nil => rfl
  | cons d gap ih =>
      obtain ⟨here, later⟩ := List.forall_mem_cons.mp blank
      rw [judgeGap, if_pos here, ih later]

theorem judgeGap_of_not_blank (blank : ∀ d ∈ blanks, Text.isBlank d = true)
    (notBlank : Text.isBlank c = false) :
    judgeGap place (blanks ++ c :: more) = judge (.gap (place.past blanks) c) := by
  induction blanks generalizing place with
  | nil => simp [judgeGap, notBlank]
  | cons d blanks ih =>
      obtain ⟨here, later⟩ := List.forall_mem_cons.mp blank
      rw [List.cons_append, judgeGap, if_pos here, ih later]
      rfl

/-- A gap is judged one character after the other. -/
theorem judgeGap_cons_prepend (later : Reading) :
    (judgeGap place (c :: gap)).prepend later =
      (judge (.gap place c)).prepend ((judgeGap (place.past [c]) gap).prepend later) := by
  by_cases blank : Text.isBlank c = true
  · rw [judgeGap, if_pos blank, judge, if_pos blank]
    rfl
  · rw [judgeGap, if_neg blank, judge, if_neg blank]
    rfl

end Gaps

/-- The matches in a line behind a stretch that has been passed, and what there is to read: in front of each
match a gap, and behind the last one what is left of the line. -/
inductive Turns (line : Text) : Text → List Grammar.Match → Reading → Prop where
  /-- Nothing is matched any more. -/
  | rest {front gap : Text} (split : line = front ++ gap) :
      Turns line front []
        ((judgeGap (.behind line front) gap).prepend { lexemes := [], misreading? := none })
  /-- The next match stands behind a gap. -/
  | found {front gap matched behind : Text} {rule : Rule} {later : List Grammar.Match} {reading : Reading}
      (split : line = front ++ gap ++ (matched ++ behind))
      (finds : Grammar.rules.firstMatch? (.behind line (front ++ gap)) =
        some (rule, .behind line (front ++ gap ++ matched)))
      (onward : Turns line (front ++ gap ++ matched) later reading) :
      Turns line front
        ({ ruleName := rule.name, first := (front ++ gap).utf8Length,
           last := (front ++ gap ++ matched).utf8Length } :: later)
        ((judgeGap (.behind line front) gap).prepend
          ((judge (.hit rule (.behind line (front ++ gap)) (.behind line (front ++ gap ++ matched)))).prepend
            reading))

/-- A character that no match covers belongs to the gap in front of what comes next. -/
theorem Turns.gap {line front : Text} {c : Char} {found : List Grammar.Match} {reading : Reading}
    (turns : Turns line (front ++ [c]) found reading) :
    Turns line front found ((judge (.gap (.behind line front) c)).prepend reading) := by
  have behindGap : (Place.behind line front).past [c] = Place.behind line (front ++ [c]) :=
    Place.past_behind line front [c]
  cases turns with
  | @rest _ gap split =>
      rw [← behindGap, ← judgeGap_cons_prepend]
      exact .rest (by rw [split, ← List.append_cons])
  | @found _ gap matched behind rule later reading split finds onward =>
      rw [← behindGap, ← judgeGap_cons_prepend]
      rw [← List.append_cons] at split finds onward ⊢
      exact .found split finds onward

/-- At the end of the line nothing is left. -/
theorem Turns.done (line : Text) : Turns line line [] { lexemes := [], misreading? := none } :=
  @Turns.rest line line [] (List.append_nil line).symm

/-- A match with no gap in front of it. -/
theorem Turns.hit {line front matched behind : Text} {rule : Rule} {later : List Grammar.Match}
    {reading : Reading} (split : line = front ++ (matched ++ behind))
    (finds : Grammar.rules.firstMatch? (.behind line front) = some (rule, .behind line (front ++ matched)))
    (onward : Turns line (front ++ matched) later reading) :
    Turns line front
      ({ ruleName := rule.name, first := front.utf8Length, last := (front ++ matched).utf8Length } :: later)
      ((judge (.hit rule (.behind line front) (.behind line (front ++ matched)))).prepend reading) := by
  have noGap : front ++ [] = front := List.append_nil front
  rw [← noGap] at split finds onward
  have turns := Turns.found split finds onward
  rwa [noGap] at turns

/-- The walk over a line gives its matches and its reading. -/
theorem turns_of_walk {line front rest : Text} {place : Place} {parts : List (Segment Rule)}
    (walk : Walk Grammar.rules.firstMatch? place parts) (here : place = .behind line front)
    (split : line = front ++ rest) :
    Turns line front (Grammar.matchesFrom front.utf8Length parts) (readSegments parts) := by
  have restHere : place.rest = rest := here ▸ Place.rest_behind split
  -- along the walk the place stays behind a stretch whose bytes are those that were counted
  induction walk generalizing front rest with
  | done atEnd nothing =>
      obtain rfl : rest = [] := restHere.symm.trans atEnd
      rw [List.append_nil] at split
      exact split ▸ Turns.done line
  | @last place rule atEnd finds =>
      obtain rfl : rest = [] := restHere.symm.trans atEnd
      have noMore : front ++ [] = front := List.append_nil front
      have ends : line = front := split.trans noMore
      have nothing : place.textUntil place = [] := @Place.textUntil_past place [] [] atEnd
      have turn := @Turns.hit line front [] [] rule [] { lexemes := [], misreading? := none } split
        (by rw [noMore, ← here]; exact finds) (by rw [noMore, ends]; exact .done front)
      rw [noMore, ← here] at turn
      rw [Grammar.matchesFrom, readSegments_cons, nothing]
      exact turn
  | @hit place rule passed behind parts finds splitPlace nonempty onward ih =>
      obtain rfl : rest = passed ++ behind := restHere.symm.trans splitPlace
      have width : front.utf8Length + (place.textUntil (place.past passed)).utf8Length =
          (front ++ passed).utf8Length := by
        rw [Place.textUntil_past splitPlace, Text.utf8Length_append]
      have splitBehind : line = front ++ passed ++ behind := by rw [split, List.append_assoc]
      have further := ih (here ▸ Place.past_behind line front passed) splitBehind
        (Place.rest_past splitPlace)
      subst here
      rw [Grammar.matchesFrom, readSegments_cons, width]
      rw [Place.past_behind] at finds ⊢
      exact .hit split finds further
  | @gap place c behind parts nothing splitPlace onward ih =>
      obtain rfl : rest = c :: behind := restHere.symm.trans splitPlace
      have width : front.utf8Length + c.utf8Size = (front ++ [c]).utf8Length := by
        rw [Text.utf8Length_append, Text.utf8Length_cons, Text.utf8Length_nil, Nat.add_zero]
      have splitBehind : line = front ++ [c] ++ behind := by rw [split, ← List.append_cons]
      have further := ih (here ▸ Place.past_behind line front [c]) splitBehind
        (Place.rest_past splitPlace)
      rw [Grammar.matchesFrom, readSegments_cons, width, here]
      exact further.gap

namespace Sweep

variable {sweep : Sweep} {line front gap matched rest : Text}

/-- The sweep has come to the place of the line behind a stretch at its start. -/
structure Ready (sweep : Sweep) (line front : Text) : Prop where
  /-- The cursor is at the place. -/
  cursor : sweep.cursor = front.utf8Length
  /-- The columns are right. -/
  sound : sweep.Sound line
  /-- No column behind the place was asked for. -/
  onward : sweep.tracker.byte ≤ front.utf8Length

/-- Putting a match behind does not touch the columns. -/
theorem Sound.moveTo (sound : sweep.Sound line) (byte : Nat) : (sweep.moveTo byte).Sound line :=
  ⟨sound.tracks, sound.answered, sound.ordered, sound.reached⟩

/-- What a verdict does to a sweep moves nothing. -/
theorem Ready.obey (ready : sweep.Ready line front) (verdict : Verdict) :
    (sweep.obey verdict).sweep.Ready line front := by
  have sound := ready.sound.obey verdict
  cases verdict with
  | skip => exact ready
  | accept lexeme => exact ⟨ready.cursor, sound, ready.onward⟩
  | reject misreading => exact ready

/-- A sweep starts in front of its line. -/
theorem ready_start (line : Text) : start.Ready line [] :=
  ⟨rfl, ⟨⟨[], List.nil_prefix, rfl, rfl⟩, by simp [start], .nil, by simp [start]⟩, Nat.le_refl _⟩

/-- A gap is passed over or has a fault, as it is judged. -/
theorem checkGap?_cases (ready : sweep.Ready line front) (split : line = front ++ gap ++ rest) :
    (judgeGap (.behind line front) gap = .skip ∧
        sweep.checkGap? line (front ++ gap).utf8Length = some (sweep.obey .skip)) ∨
      ∃ (next : Sweep) (misreading : Misreading),
        judgeGap (.behind line front) gap = .reject misreading ∧
          sweep.checkGap? line (front ++ gap).utf8Length = some (next.obey (.reject misreading)) ∧
          next.Sound line ∧ next.lexemes = sweep.lexemes := by
  obtain ⟨blanks, after, rfl, blank, stops⟩ := Text.exists_run Text.isBlank gap
  cases after with
  | nil =>
      rw [List.append_nil] at split ⊢
      rw [List.append_assoc] at split
      exact Or.inl ⟨judgeGap_of_blank blank, checkGap?_of_blank split ready.cursor blank⟩
  | cons c more =>
      have notBlank := Text.stopsRun_cons.mp stops
      have splitFault : line = front ++ blanks ++ (c :: more ++ rest) := by
        rw [split]
        simp only [List.append_assoc]
      have onward : sweep.tracker.byte ≤ (front ++ blanks).utf8Length :=
        Nat.le_trans ready.onward (Text.utf8Length_le_append front blanks)
      have checked := checkGap?_of_not_blank ready.sound ready.onward splitFault ready.cursor blank notBlank
      have judged : judgeGap (.behind line front) (blanks ++ c :: more) = _ :=
        judgeGap_of_not_blank blank notBlank
      rw [Place.past_behind, judge_of_not_blank notBlank] at judged
      rw [judge_of_not_blank notBlank] at checked
      exact Or.inr ⟨_, _, judged, checked, ready.sound.asked ⟨_, splitFault.symm⟩ onward, rfl⟩

/-- A turn deals with a gap and a match as they are judged: it stops at the first fault, or it comes to the
place behind the match. -/
theorem turn?_spec {rule : Rule} (ready : sweep.Ready line front)
    (split : line = front ++ gap ++ (matched ++ rest))
    (finds : Grammar.rules.firstMatch? (.behind line (front ++ gap)) =
      some (rule, .behind line (front ++ gap ++ matched))) :
    ∃ (next : Sweep) (verdict : Verdict),
      sweep.turn? line
          { ruleName := rule.name, first := (front ++ gap).utf8Length
            last := (front ++ gap ++ matched).utf8Length } = some (next.obey verdict) ∧
        next.Sound line ∧ next.lexemes = sweep.lexemes ∧
        (∀ later, (judgeGap (.behind line front) gap).prepend
          ((judge (.hit rule (.behind line (front ++ gap))
            (.behind line (front ++ gap ++ matched)))).prepend later) = verdict.prepend later) ∧
        ((next.obey verdict).misreading? = none →
          (next.obey verdict).sweep.Ready line (front ++ gap ++ matched)) := by
  have named := Grammar.find?_name Grammar.nodup_names_rules (Grammar.mem_of_firstMatch? finds).1
  have overGap : sweep.tracker.byte ≤ (front ++ gap).utf8Length :=
    Nat.le_trans ready.onward (Text.utf8Length_le_append front gap)
  have overMatch : (front ++ gap).utf8Length ≤ (front ++ gap ++ matched).utf8Length :=
    Text.utf8Length_le_append (front ++ gap) matched
  -- a fault in the gap keeps the sweep from looking at the match at all
  rcases checkGap?_cases ready split with
    ⟨passed, checked⟩ | ⟨next, misreading, stopped, checked, sound, same⟩
  · have moved := ready.sound.moveTo (front ++ gap ++ matched).utf8Length
    cases action : rule.action with
    | skip =>
        have judged : judge (.hit rule (.behind line (front ++ gap))
            (.behind line (front ++ gap ++ matched))) = .skip := by
          rw [judge, action]
        refine ⟨sweep.moveTo _, .skip, ?_, moved, rfl, fun later => by rw [passed, judged]; rfl,
          fun _ => ⟨rfl, moved, Nat.le_trans overGap overMatch⟩⟩
        rw [turn?, named, checked]
        simp only [Option.bind_eq_bind, Option.bind_some, obey, action]
        rfl
    | emit category =>
        have emitted := emit?_eq moved overGap split finds action
        have sound := moved.asked ⟨_, split.symm⟩ overGap
        have ready : ((sweep.moveTo _).asked (front ++ gap)).Ready line (front ++ gap ++ matched) :=
          ⟨rfl, sound, overMatch⟩
        refine ⟨_, _, ?_, sound, rfl, fun later => by rw [passed]; rfl, fun _ => ready.obey _⟩
        rw [turn?, named, checked]
        simp only [Option.bind_eq_bind, Option.bind_some, obey, action]
        exact emitted
  · refine ⟨next, .reject misreading, ?_, sound, same, fun later => by rw [stopped]; rfl,
      fun goesOn => absurd goesOn (Option.some_ne_none _)⟩
    rw [turn?, named, checked]
    rfl

/-- A sweep over what is left of a line reads what there is to read. -/
theorem run?_spec {found : List Grammar.Match} {reading : Reading} (turns : Turns line front found reading)
    (ready : sweep.Ready line front) :
    ∃ turn, sweep.run? line found = some turn ∧ turn.sweep.Sound line ∧
      turn.sweep.lexemes = sweep.lexemes ++ reading.lexemes ∧
      turn.misreading? = reading.misreading? := by
  -- without a fault a turn leaves the sweep ready behind its match, where the later turns begin
  induction turns generalizing sweep with
  | @rest front gap split =>
      have splitNil : line = front ++ gap ++ [] := by rw [split, List.append_nil]
      have whole : line.utf8Length = (front ++ gap).utf8Length := congrArg Text.utf8Length split
      rw [run?, whole]
      rcases checkGap?_cases ready splitNil with
        ⟨passed, checked⟩ | ⟨next, misreading, stopped, checked, sound, same⟩
      · refine ⟨_, checked, ready.sound, ?_, ?_⟩
        · rw [passed]
          exact (List.append_nil _).symm
        · rw [passed]
          rfl
      · refine ⟨_, checked, sound, ?_, ?_⟩
        · rw [stopped]
          exact same.trans (List.append_nil _).symm
        · rw [stopped]
          rfl
  | @found front gap matched behind rule later reading split finds onward ih =>
      obtain ⟨next, verdict, turned, sound, same, reads, goesOn⟩ := turn?_spec ready split finds
      rw [run?, turned, reads]
      cases verdict with
      | skip =>
          rw [← same]
          exact ih (goesOn rfl)
      | accept lexeme =>
          obtain ⟨turn, ran, soundTurn, lexemes, misreading⟩ := ih (goesOn rfl)
          refine ⟨turn, ran, soundTurn, ?_, misreading⟩
          rw [lexemes, ← same]
          exact List.append_assoc _ _ _
      | reject misreading => exact ⟨_, rfl, sound, same.trans (List.append_nil _).symm, rfl⟩

/-- The matches of a line and its reading, in front of the line. -/
theorem turns_start (line : Text) : Turns line [] (Grammar.rules.matchesIn line) (readLine line) :=
  turns_of_walk (walk_segments Grammar.advances_rules line) rfl rfl

/-- What a sweep over a line comes to between its turns: the sweep so far, and the matches still to come. -/
inductive Reached (line : Text) : Sweep → List Grammar.Match → Prop where
  /-- In front of the line, all of its matches are to come. -/
  | start : Reached line start (Grammar.rules.matchesIn line)
  /-- A turn without a fault leads over a match. -/
  | turn {sweep next : Sweep} {found : Grammar.Match} {later : List Grammar.Match}
      (reached : Reached line sweep (found :: later))
      (goesOn : sweep.turn? line found = some { sweep := next, misreading? := none }) :
      Reached line next later

/-- Wherever a sweep comes to, its cursor is at a place of the line behind which its matches stand. -/
theorem Reached.ready {found : List Grammar.Match} (reached : Reached line sweep found) :
    ∃ front reading, sweep.Ready line front ∧ Turns line front found reading := by
  induction reached with
  | start => exact ⟨[], readLine line, ready_start line, turns_start line⟩
  | turn reached goesOn ih =>
      obtain ⟨front, reading, ready, turns⟩ := ih
      cases turns with
      | found split finds onward =>
          obtain ⟨next, verdict, turned, -, -, -, comesTo⟩ := turn?_spec ready split finds
          rw [turned, Option.some.injEq] at goesOn
          rw [goesOn] at comesTo
          exact ⟨_, _, comesTo rfl, onward⟩

/-- Cutting a line up by the bytes of its matches never fails. At every turn of a sweep the cursor does not lie
behind the match that comes next, which begins and ends at places of the line; wherever the sweep comes to,
the cursor is at a place of the line too, and the column of the tracker is the number of characters in front
of its byte and one more. So the sweep over a line comes to its end or to a fault, with the reading of the
line as its result, and every column that it asked for was found by counting on from the one before. -/
theorem overLine?_spec (line : Text) :
    (∀ sweep found, Reached line sweep found →
        line.IsBoundary sweep.cursor ∧ sweep.tracker.Tracks line) ∧
      (∀ sweep found later, Reached line sweep (found :: later) →
        sweep.cursor ≤ found.first ∧ found.first ≤ found.last ∧ found.last ≤ line.utf8Length ∧
          line.IsBoundary found.first ∧ line.IsBoundary found.last) ∧
      ∃ turn, overLine? line = some turn ∧ turn.reading = readLine line ∧ turn.sweep.Sound line := by
  refine ⟨fun sweep found reached => ?_, fun sweep found later reached => ?_, ?_⟩
  · obtain ⟨front, reading, ready, turns⟩ := reached.ready
    have stands : front <+: line := by
      cases turns with
      | rest split => exact ⟨_, split.symm⟩
      | found split => exact ⟨_, by rw [split, List.append_assoc]⟩
    exact ⟨⟨front, stands, ready.cursor.symm⟩, ready.sound.tracks⟩
  · obtain ⟨front, reading, ready, turns⟩ := reached.ready
    cases turns with
    | @found _ gap matched behind rule later reading split finds onward =>
        have first : line.IsBoundary (front ++ gap).utf8Length := ⟨_, ⟨_, split.symm⟩, rfl⟩
        have last : line.IsBoundary (front ++ gap ++ matched).utf8Length :=
          ⟨_, ⟨behind, by rw [split, List.append_assoc]⟩, rfl⟩
        refine ⟨?_, ?_, last.le, first, last⟩
        · rw [ready.cursor]
          exact Text.utf8Length_le_append front gap
        · exact Text.utf8Length_le_append (front ++ gap) matched
  · obtain ⟨turn, ran, sound, lexemes, misreading⟩ := run?_spec (turns_start line) (ready_start line)
    refine ⟨turn, ran, ?_, sound⟩
    rw [Turn.reading, lexemes, misreading]
    rfl

/-- Behind a character of two bytes the cursor is at byte four, where the next literal begins that turns out
to be too long. -/
theorem overLine?_spec_longChar :
    let line : Text := "'é''ab'".toList
    let sweep : Sweep :=
      { cursor := 4, tracker := .start, queries := [{ tracker := .start, byte := 0, column := 1 }]
        lexemes := [{ category := .char, literal := "'é'".toList, column := 1 }] }
    let found : Grammar.Match := { ruleName := "char".toList, first := 4, last := 8 }
    ∃ later, Reached line sweep (found :: later) ∧
      (line.IsBoundary sweep.cursor ∧ sweep.tracker.Tracks line) ∧
        (sweep.cursor ≤ found.first ∧ found.first ≤ found.last ∧ found.last ≤ line.utf8Length ∧
          line.IsBoundary found.first ∧ line.IsBoundary found.last) := by
  intro line sweep found
  have finds : Grammar.rules.firstMatch? (Place.start line) =
      some (Grammar.charRule, (Place.start line).past "'é'".toList) :=
    @finds_char (Place.start line) "'ab'".toList ['é'] rfl (by decide) (by decide)
  have findsNext : Grammar.rules.firstMatch? ((Place.start line).past "'é'".toList) =
      some (Grammar.charRule, ((Place.start line).past "'é'".toList).past "'ab'".toList) :=
    @finds_char ((Place.start line).past "'é'".toList) [] "ab".toList rfl (by decide) (by decide)
  obtain ⟨later, matched⟩ : ∃ later, Grammar.rules.matchesIn line =
      { ruleName := "char".toList, first := 0, last := 4 } :: found :: later := by
    rw [Grammar.matchesIn, segments, segmentsFrom_hit finds rfl (by decide),
      segmentsFrom_hit findsNext rfl (by decide)]
    exact ⟨_, rfl⟩
  have inFront : Reached line start
      ({ ruleName := "char".toList, first := 0, last := 4 } :: found :: later) := matched ▸ .start
  have reached : Reached line sweep (found :: later) := .turn inFront rfl
  exact ⟨later, reached, (overLine?_spec line).1 sweep _ reached,
    (overLine?_spec line).2.1 sweep found later reached⟩

end Sweep

end Lexical
