/-
Module: Lexical.CommandLine.Arguments
Layer: Command line
Purpose: What the arguments of a command ask for. They are read from left to right, and the first thing
  that decides the matter does so: a wrong argument, or a request for help or for the version. Only a
  missing input is noticed at the end.
Imports: Lexical.Text.Basic
Main exports: Arguments, Request, UsageError, Argument, Argument.ofText, Request.ofArguments,
  helpText, versionText
-/

import Lexical.Text.Basic

namespace Lexical.CommandLine

/-- What to analyze, and how. -/
structure Arguments where
  /-- The path of the source file. -/
  input : Text
  /-- The path of the file that the report is written to. Without one it is printed. -/
  output? : Option Text
  /-- Whether the comments stay in the source. -/
  keepComments : Bool
  /-- Whether only the token list is wanted. -/
  tokensOnly : Bool
deriving DecidableEq, Repr

/-- What a command asks for. -/
inductive Request where
  | analyze (arguments : Arguments)
  | help
  | version
deriving DecidableEq, Repr

/-- What is wrong with the arguments of a command. -/
inductive UsageError where
  /-- There is no option of this spelling. Names cannot be abbreviated. -/
  | unknownOption (argument : Text)
  /-- A flag was given a value. -/
  | valueForFlag (argument : Text)
  /-- An option or a flag was given twice. -/
  | repeated (argument : Text)
  /-- No value follows the option. -/
  | missingValue (argument : Text)
  /-- A path is empty. -/
  | emptyPath
  /-- There is more than one input. -/
  | secondInput (argument : Text)
  /-- There is no input. -/
  | missingInput
deriving DecidableEq, Repr

/-- What is said of a wrong command. -/
def UsageError.message : UsageError → Text
  | .unknownOption argument => "unexpected argument '".toList ++ argument ++ "' found".toList
  | .valueForFlag argument => "unexpected value in '".toList ++ argument ++ "'".toList
  | .repeated argument =>
      "the argument '".toList ++ argument ++ "' cannot be used multiple times".toList
  | .missingValue argument => "a value is required for '".toList ++ argument ++ "'".toList
  | .emptyPath => "a path must not be empty".toList
  | .secondInput argument => "unexpected argument '".toList ++ argument ++ "' found".toList
  | .missingInput => "the following required arguments were not provided: <INPUT>".toList

/-- A single argument, as its spelling shows it. -/
inductive Argument where
  /-- All that follows is input, whatever it looks like. -/
  | endOfOptions
  | help
  | version
  | keepComments
  | tokensOnly
  /-- The output option, with the value that is attached to it, if one is. -/
  | output (value? : Option Text)
  /-- A flag with a value attached to it. -/
  | flagWithValue
  /-- An input, or the value of the option before it. -/
  | plain
  /-- An option that does not exist. -/
  | unknown
deriving DecidableEq, Repr

/-- The long option with the given name and with the value behind its equals sign, if there is one. -/
def Argument.ofLong (name : Text) (value? : Option Text) : Argument :=
  let flag (argument : Argument) : Argument :=
    if value?.isSome then .flagWithValue else argument
  if name = "output".toList then .output value?
  else if name = "keep-comments".toList then flag .keepComments
  else if name = "tokens-only".toList then flag .tokensOnly
  else if name = "help".toList then flag .help
  else if name = "version".toList then flag .version
  else .unknown

/-- A short output option with what follows its letter: nothing, or a value, which an equals sign may
introduce. -/
def Argument.ofShortOutput : Text → Argument
  | [] => .output none
  | '=' :: value => .output (some value)
  | value => .output (some value)

/-- Reads the spelling of an argument. A hyphen alone is a plain argument. Of several short options in one
argument only the first counts, for help and version end the reading at once and the output option takes
the rest of the argument as its value. -/
def Argument.ofText : Text → Argument
  | ['-'] => .plain
  | ['-', '-'] => .endOfOptions
  | '-' :: '-' :: long =>
      match long.dropWhile (· != '=') with
      | [] => .ofLong long none
      | _ :: value => .ofLong (long.takeWhile (· != '=')) (some value)
  | '-' :: 'h' :: _ => .help
  | '-' :: 'V' :: _ => .version
  | '-' :: 'o' :: rest => .ofShortOutput rest
  | '-' :: _ => .unknown
  | _ => .plain

/-- What the arguments read so far have settled. -/
structure Draft where
  input? : Option Text
  output? : Option Text
  keepComments : Bool
  tokensOnly : Bool
deriving DecidableEq, Repr

namespace Draft

/-- Nothing is settled before the first argument. -/
def empty : Draft :=
  { input? := none, output? := none, keepComments := false, tokensOnly := false }

/-- Takes the path of the input. -/
def takeInput (draft : Draft) (path : Text) : Except UsageError Draft :=
  if draft.input?.isSome then .error (.secondInput path)
  else if path = [] then .error .emptyPath
  else .ok { draft with input? := some path }

/-- Takes the path of the output. -/
def takeOutput (draft : Draft) (path : Text) : Except UsageError Draft :=
  if path = [] then .error .emptyPath
  else if draft.output?.isSome then .error (.repeated "--output".toList)
  else .ok { draft with output? := some path }

/-- Takes the flag that keeps comments. -/
def takeKeepComments (draft : Draft) : Except UsageError Draft :=
  if draft.keepComments then .error (.repeated "--keep-comments".toList)
  else .ok { draft with keepComments := true }

/-- Takes the flag that leaves only the token list. -/
def takeTokensOnly (draft : Draft) : Except UsageError Draft :=
  if draft.tokensOnly then .error (.repeated "--tokens-only".toList)
  else .ok { draft with tokensOnly := true }

/-- The request, once all arguments have been read. -/
def finish (draft : Draft) : Except UsageError Request :=
  match draft.input? with
  | none => .error .missingInput
  | some input =>
      .ok <| .analyze
        { input, output? := draft.output?, keepComments := draft.keepComments,
          tokensOnly := draft.tokensOnly }

end Draft

namespace Request

/-- Reads the arguments behind the end of the options. -/
def ofInputs (draft : Draft) : List Text → Except UsageError Request
  | [] => draft.finish
  | path :: later => do ofInputs (← draft.takeInput path) later

/-- Reads arguments after others that have been read into the draft. The value of an output option that
brings none is the next argument, which must not look like an option. -/
def ofArgumentsAfter (draft : Draft) : List Text → Except UsageError Request
  | [] => draft.finish
  | argument :: later =>
      match Argument.ofText argument with
      | .endOfOptions => ofInputs draft later
      | .help => .ok .help
      | .version => .ok .version
      | .keepComments => do ofArgumentsAfter (← draft.takeKeepComments) later
      | .tokensOnly => do ofArgumentsAfter (← draft.takeTokensOnly) later
      | .output (some value) => do ofArgumentsAfter (← draft.takeOutput value) later
      | .output none =>
          match later with
          | [] => .error (.missingValue argument)
          | value :: later' =>
              if Argument.ofText value = .plain then do
                ofArgumentsAfter (← draft.takeOutput value) later'
              else .error (.missingValue argument)
      | .flagWithValue => .error (.valueForFlag argument)
      | .plain => do ofArgumentsAfter (← draft.takeInput argument) later
      | .unknown => .error (.unknownOption argument)

/-- What a command with these arguments asks for. -/
def ofArguments (arguments : List Text) : Except UsageError Request :=
  ofArgumentsAfter Draft.empty arguments

end Request

/-- The answer to a request for help. -/
def helpText : Text :=
  "Lexical analyzer for a small C-like language

Usage: lexan [OPTIONS] <INPUT>

Arguments:
  <INPUT>  Source file to analyze

Options:
  -o, --output <OUTPUT>  Write the report here instead of stdout (overwrites)
      --keep-comments    Tokenize the text as-is, without stripping comments first
      --tokens-only      Only render the token list
  -h, --help             Print help
  -V, --version          Print version
".toList

/-- The answer to a request for the version. -/
def versionText : Text :=
  "lexan 0.1.0\n".toList

end Lexical.CommandLine
