/-
Module: Lexical.CommandLine.Command
Layer: Command line
Purpose: What a command does. Everything is decided here as a value: `begin` reads the arguments, `plan`
  says what follows from the source that was read, and `afterSaving` how a command ends that has saved its
  report. `execute` carries this out on files, whatever keeps them: those of the system for the program,
  and a directory that is given as a value for `run`. Nothing is written before the whole report is there,
  so a command that fails has changed nothing.
Imports: Lexical.Scanner, Lexical.CommandLine.Arguments, Lexical.CommandLine.Files, Lexical.Fault,
  Lexical.Report
Main exports: Ending, begin, Plan, plan, afterSaving, Plan.carryOut, execute, run
-/

import Lexical.Scanner
import Lexical.CommandLine.Arguments
import Lexical.CommandLine.Files
import Lexical.Fault
import Lexical.Report

namespace Lexical.CommandLine

/-- How a command ends. -/
structure Ending where
  exitCode : Nat
  /-- The text on standard output. -/
  output : Text
  /-- The text on standard error. -/
  errors : Text
deriving DecidableEq, Repr

namespace Ending

/-- The command has done its work and prints a text. -/
def success (output : Text) : Ending :=
  { exitCode := 0, output, errors := [] }

/-- The source has an error, which is shown to the reader. -/
def rejected (shown : Text) : Ending :=
  { exitCode := 1, output := shown, errors := [] }

/-- A file could not be used. The verb says what for. -/
def fileFailure (verb path : Text) (reason : FileError) : Ending :=
  { exitCode := 1, output := [],
    errors := "Error: could not ".toList ++ verb ++ ' ' :: path ++ ": ".toList ++ reason.message ++ ['\n'] }

/-- The arguments are wrong. -/
def usageFailure (error : UsageError) : Ending :=
  { exitCode := 2, output := [], errors := "error: ".toList ++ error.message ++ ['\n'] }

/-- The source has an error that cannot be shown. -/
def excerptFailure (error : ExcerptError) : Ending :=
  { exitCode := 101, output := [], errors := error.message ++ ['\n'] }

end Ending

/-- Reads the arguments: the command ends at once, or there is something to analyze. -/
def begin (arguments : List Text) : Except Ending Arguments :=
  match Request.ofArguments arguments with
  | .error error => .error (.usageFailure error)
  | .ok .help => .error (.success helpText)
  | .ok .version => .error (.success versionText)
  | .ok (.analyze arguments) => .ok arguments

/-- What is left to do after the analysis. -/
inductive Plan where
  /-- Nothing: the command ends. -/
  | stop (ending : Ending)
  /-- To write the content to a file. -/
  | save (path content : Text)
deriving DecidableEq, Repr

/-- The part of the report that is asked for. -/
def Arguments.rendering (arguments : Arguments) (table : Table) : Text :=
  if arguments.tokensOnly then (Report.ofTable table).tokenList else (Report.ofTable table).text

/-- The text to be analyzed: the source, with or without its comments. -/
def Arguments.prepared (arguments : Arguments) (source : Text) : Text :=
  if arguments.keepComments then source else Comment.strip source

/-- What follows from the source that was read, or from the failure to read it. -/
def plan (arguments : Arguments) (source : Except FileError Text) : Plan :=
  match source with
  | .error reason => .stop (.fileFailure "read".toList arguments.input reason)
  | .ok source =>
      let text := arguments.prepared source
      match tokenize text with
      | .error error =>
          match excerpt error text arguments.input with
          | .ok shown => .stop (.rejected shown)
          | .error reason => .stop (.excerptFailure reason)
      | .ok table =>
          match arguments.output? with
          | none => .stop (.success (arguments.rendering table))
          | some path => .save path (arguments.rendering table)

/-- How a command ends that has tried to save its report. -/
def afterSaving (path : Text) : Except FileError Unit → Ending
  | .ok () => .success ("Results saved to '".toList ++ path ++ "'.\n".toList)
  | .error reason => .fileFailure "write".toList path reason

/-- Does on files what is left to do. -/
def Plan.carryOut {m : Type → Type} [Monad m] (files : FileAccess m) : Plan → m Ending
  | .stop ending => return ending
  | .save path content => return afterSaving path (← files.write path content)

/-- Carries out a command on files: at most one is read, and then at most one is written. -/
def execute {m : Type → Type} [Monad m] (files : FileAccess m) (arguments : List Text) : m Ending := do
  match begin arguments with
  | .error ending => return ending
  | .ok request => (plan request (← files.read request.input)).carryOut files

/-- Runs a command in a directory: how it ends, and the directory after it. -/
def run (directory : Directory) (arguments : List Text) : Ending × Directory :=
  (execute Directory.files arguments).run directory

end Lexical.CommandLine
