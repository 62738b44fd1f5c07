/-
Module: Lexical.Scanner
Layer: Scanner
Purpose: Scanning line after line into one table, and with this the analysis of a whole source. A scanner
  knows how many lines it was given and the tokens found so far. A line with a fault counts as a line, and
  its tokens before the fault stay in the table; whether scanning goes on after a fault is for the caller to
  say. A run over several lines stops at the first fault and tells what happened, as events that a log shows
  by a level, a message and named fields. A source is scanned with or without removing the comments first.
Imports: Lexical.Comment, Lexical.Reading
Main exports: Event, Level, Event.level, Event.message, Event.fields, Scanner, Scanner.start, Scanner.Step,
  Scanner.scanLine, Scanner.Run, Scanner.run, scanSource, tokenize, analyze, trace
-/

import Lexical.Comment
import Lexical.Reading

namespace Lexical

/-! ### Events -/

/-- Something that happens during a run. -/
inductive Event where
  /-- A line was read without a fault and gave so many tokens. -/
  | scannedLine (line tokens : Nat)
  /-- The run ended at an error. -/
  | rejected (error : LexicalError)
  /-- The run came to the end of the source after so many lines and tokens. -/
  | finished (lines tokens : Nat)
deriving DecidableEq, Repr

/-- How much weight an event has in a log. -/
inductive Level where
  | debug
  | info
  | warn
deriving DecidableEq, Repr

/-- The level as a log shows it. -/
def Level.text : Level → Text
  | .debug => "DEBUG".toList
  | .info => "INFO".toList
  | .warn => "WARN".toList

namespace Event

/-- The level at which the event is logged. -/
def level : Event → Level
  | .scannedLine .. => .debug
  | .rejected .. => .warn
  | .finished .. => .info

/-- What the log says of the event. -/
def message : Event → Text
  | .scannedLine .. => "scanned line".toList
  | .rejected error => error.fault.message
  | .finished .. => "tokenized source".toList

/-- The named values that the log adds to the message. -/
def fields : Event → List (Text × Text)
  | .scannedLine line tokens =>
      [("line".toList, Text.ofNat line), ("tokens".toList, Text.ofNat tokens)]
  | .rejected error => [("position".toList, error.position.text)]
  | .finished lines tokens =>
      [("lines".toList, Text.ofNat lines), ("tokens".toList, Text.ofNat tokens)]

end Event

/-! ### Scanners -/

/-- A scanner between two lines. -/
structure Scanner where
  /-- The number of lines scanned so far. -/
  line : Nat
  /-- The tokens found so far. -/
  table : Table
deriving DecidableEq, Repr

namespace Scanner

/-- The scanner that has seen nothing yet. -/
def start : Scanner :=
  { line := 0, table := Table.empty }

/-- What scanning one line gives. -/
structure Step where
  /-- The scanner after the line. -/
  scanner : Scanner
  /-- The tokens that the line added to the table. -/
  added : List Token
  /-- The error at which reading the line ended, if it did. -/
  error? : Option LexicalError
deriving DecidableEq, Repr

/-- Scans the next line. A line feed inside it does not end it. -/
def scanLine (scanner : Scanner) (text : Text) : Step :=
  let line := scanner.line + 1
  let reading := readLine text
  let added := reading.lexemes.map (·.toToken line)
  { scanner := { line, table := scanner.table.append added }
    added
    error? := reading.misreading?.map (·.toError line) }

/-- What a run over several lines gives. -/
structure Run where
  /-- The scanner at the end of the run. -/
  scanner : Scanner
  /-- The error at which the run ended, if it did. -/
  error? : Option LexicalError
  /-- What happened, in order. -/
  events : List Event
deriving DecidableEq, Repr

/-- Scans the lines one after the other, up to the first error. -/
def run (scanner : Scanner) : List Text → Run
  | [] =>
      { scanner, error? := none, events := [.finished scanner.line scanner.table.size] }
  | text :: texts =>
      let step := scanner.scanLine text
      match step.error? with
      | some error => { scanner := step.scanner, error? := some error, events := [.rejected error] }
      | none =>
          let later := step.scanner.run texts
          { later with
            events := .scannedLine step.scanner.line step.added.length :: later.events }

/-- The table that a run has filled, or the error that ended it. After an error there is no table. -/
def Run.result (run : Run) : Except LexicalError Table :=
  match run.error? with
  | some error => .error error
  | none => .ok run.scanner.table

end Scanner

/-! ### Sources -/

/-- The run of a new scanner over the lines of a source. -/
def scanSource (source : Text) : Scanner.Run :=
  Scanner.start.run source.lines

/-- The tokens of a source, or its first error. Comments are not removed, but one that stands on a single
line is passed over by the grammar. -/
def tokenize (source : Text) : Except LexicalError Table :=
  (scanSource source).result

/-- The tokens of a source after its comments have been removed, or the first error. -/
def analyze (source : Text) : Except LexicalError Table :=
  tokenize (Comment.strip source)

/-- What happens during the analysis of a source. -/
def trace (source : Text) : List Event :=
  (scanSource (Comment.strip source)).events

end Lexical
