/-
Module: Lexical.Proofs.Traces
Layer: Proofs
Purpose: The log of a run tells what the run has done. Each line that is read to its end is logged before the
  next one is looked at (`Scanner.events_run_append`, by induction on these lines), so the log falls into the
  events of the lines without a fault and one last event, which is that of the line with the fault or that of
  the end. What is counted line by line during the run are the tokens that the table has on these lines.
Imports: Lexical.Proofs.BeforeErrors, Lexical.Proofs.Counting
Main exports: lineEvents, Scanner.events_run_append, lineEvents_eq_map, events_scanSource_of_ok,
  events_scanSource_of_error, Event.shown, shown_trace
-/

import Lexical.Proofs.BeforeErrors
import Lexical.Proofs.Counting

namespace Lexical

/-! ### Lines that are read to their ends -/

/-- The events of lines without a fault that are numbered from the given number on. -/
def lineEvents : Nat → List Reading → List Event
  | _, [] => []
  | number, reading :: readings =>
      .scannedLine number reading.lexemes.length :: lineEvents (number + 1) readings

/-- A run logs the lines in front of its first fault and goes on behind them like a run that begins there. -/
theorem Scanner.events_run_append (scanner : Scanner) {before : List Text} (lines : List Text)
    (noFault : ∀ line ∈ before, (readLine line).misreading? = none) :
    (scanner.run (before ++ lines)).events =
      lineEvents (scanner.line + 1) (before.map readLine) ++ ((scanner.after before).run lines).events := by
  induction before generalizing scanner with
  | nil => rfl
  | cons line before ih =>
      obtain ⟨here, further⟩ := List.forall_mem_cons.mp noFault
      rw [List.cons_append, scanner.run_cons_of_none _ here, ih _ further]
      rfl

theorem getElem?_lineEvents (number index : Nat) (readings : List Reading) :
    (lineEvents number readings)[index]? =
      readings[index]?.map fun reading => .scannedLine (number + index) reading.lexemes.length := by
  induction readings generalizing number index with
  | nil => rfl
  | cons reading readings ih =>
      cases index with
      | zero => rfl
      | succ index =>
          rw [lineEvents, List.getElem?_cons_succ, List.getElem?_cons_succ, ih, Nat.add_right_comm,
            Nat.add_assoc]

/-- What is logged of the first lines are the tokens that the table of these and more lines has on them. -/
theorem lineEvents_eq_map {table : Table} {readings more : List Reading}
    (tokens : table.tokens = tokensFrom 1 (readings ++ more)) :
    lineEvents 1 readings =
      (List.range' 1 readings.length).map fun number => .scannedLine number (table.sizeOn number) := by
  refine List.ext_getElem? fun index => ?_
  rw [getElem?_lineEvents, List.getElem?_map]
  by_cases inside : index < readings.length
  · have isReading : (readings ++ more)[index]? = some readings[index] := by
      rw [List.getElem?_append_left inside, List.getElem?_eq_getElem inside]
    have sameSize := congrArg List.length (Table.lexemesOn_of_tokens tokens isReading)
    rw [← Table.sizeOn_eq_length, Nat.add_comm] at sameSize
    rw [List.getElem?_eq_getElem inside, List.getElem?_range' inside, Option.map_some, Option.map_some,
      Nat.one_mul, sameSize]
  · rw [List.getElem?_eq_none (by omega), List.getElem?_eq_none (by simpa using inside)]
    rfl

/-! ### The events of a source -/

section Sources

variable {source : Text} {table : Table} {error : LexicalError}

/-- Without an error all lines are logged, and then the end. -/
theorem events_scanSource_of_ok (tokenized : tokenize source = .ok table) :
    (scanSource source).events =
      (List.range' 1 source.lines.length).map (fun number => .scannedLine number (table.sizeOn number)) ++
        [.finished source.lines.length table.size] := by
  obtain ⟨noError, tokens⟩ := tokenize_eq_ok_iff.mp tokenized
  have noFault := List.forall_mem_map.mp (firstError?_eq_none_iff.mp noError)
  have lines : lineEvents 1 (source.lines.map readLine) = _ :=
    @lineEvents_eq_map table _ [] (by rw [tokens, List.append_nil])
  have lastLine : (Scanner.start.after source.lines).line = source.lines.length := by
    rw [Scanner.line_after]
    exact Nat.zero_add _
  have whole : (Scanner.start.after source.lines).table = table :=
    Table.eq_of_tokens_eq ((Scanner.start.tokens_after source.lines).trans tokens.symm)
  have events := Scanner.start.events_run_append [] noFault
  rw [List.append_nil, Scanner.run, lastLine, whole] at events
  rw [scanSource, events, ← List.length_map (f := readLine), ← lines]
  rfl

/-- Otherwise the lines in front of the one with the error are logged, and then the error. -/
theorem events_scanSource_of_error (failed : tokenize source = .error error) :
    (scanSource source).events =
      (List.range' 1 (error.position.line - 1)).map
        (fun number => .scannedLine number ((scanSource source).scanner.table.sizeOn number)) ++
          [.rejected error] := by
  have table := table_scanSource_of_error failed
  obtain ⟨before, line, after, misreading, lines, noFault, misread, rfl⟩ :=
    exists_line_of_firstError? (tokenize_eq_error_iff.mp failed)
  have tokens : (scanSource source).scanner.table.tokens =
      tokensFrom 1 (before.map readLine ++ [readLine line]) := by
    rw [table, lines]
    simp only [Misreading.toError, take_readLine_upTo]
    simp [Table.tokens]
  have front : lineEvents 1 (before.map readLine) = _ := lineEvents_eq_map tokens
  have events := Scanner.start.events_run_append (line :: after) noFault
  have lastLine : (Scanner.start.after before).line + 1 = before.length + 1 := by
    rw [Scanner.line_after]
    exact congrArg (· + 1) (Nat.zero_add _)
  rw [Scanner.run_cons_of_some _ after misread, lastLine, ← lines] at events
  rw [List.length_map] at front
  exact events.trans (congrArg (· ++ _) front)

end Sources

/-! ### The log of an analysis -/

/-- What a log shows of an event: its level, its message and its named values. -/
def Event.shown (event : Event) : Level × Text × List (Text × Text) :=
  (event.level, event.message, event.fields)

/-- The log tells what became of an analysis. If it succeeds, every line has its number and the number of tokens
that the table has on it, in the order of the lines, and at the end stand the number of lines and the size of
the table, which is the sum over the lines. If it fails, the lines before that of the error are logged in
the same way, with the tokens found up to the error, and then the error with its message and its place. -/
theorem shown_trace (source : Text) :
    let lines := (Comment.strip source).lines
    let log := (trace source).map Event.shown
    let scannedLine (table : Table) (number : Nat) : Level × Text × List (Text × Text) :=
      (.debug, "scanned line".toList,
        [("line".toList, Text.ofNat number), ("tokens".toList, Text.ofNat (table.sizeOn number))])
    (∀ table, analyze source = .ok table →
        log = (List.range' 1 lines.length).map (scannedLine table) ++
            [(.info, "tokenized source".toList,
              [("lines".toList, Text.ofNat lines.length), ("tokens".toList, Text.ofNat table.size)])] ∧
          ((List.range' 1 lines.length).map table.sizeOn).sum = table.size) ∧
      ∀ error, analyze source = .error error →
        1 ≤ error.position.line ∧ error.position.line ≤ lines.length ∧
          log = (List.range' 1 (error.position.line - 1)).map
              (scannedLine (scanSource (Comment.strip source)).scanner.table) ++
            [(.warn, error.fault.message, [("position".toList, error.position.text)])] := by
  intro lines log scannedLine
  refine ⟨fun table analyzed => ⟨?_, ?_⟩, fun error failed => ?_⟩
  · simp only [log, trace, events_scanSource_of_ok analyzed, List.map_append, List.map_map]
    rfl
  · have sum := Table.sum_sizeOn (tokenize_eq_ok_iff.mp analyzed).2
    rwa [List.length_map] at sum
  · obtain ⟨before, line, after, misreading, isSplit, -, -, place⟩ :=
      exists_line_of_firstError? (tokenize_eq_error_iff.mp failed)
    have atLine : error.position.line = before.length + 1 := by
      rw [place]
      rfl
    have inside : before.length < lines.length := by
      rw [show lines = before ++ line :: after from isSplit, List.length_append, List.length_cons]
      omega
    refine ⟨by omega, by omega, ?_⟩
    simp only [log, trace, events_scanSource_of_error failed, List.map_append, List.map_map]
    rfl

end Lexical
