/-
Module: Lexical.Main
Layer: Command line
Purpose: The program. It executes its command on the files of the system, and prints how it ends.
Imports: Lexical.CommandLine.Command
Main exports: main
-/

import Lexical.CommandLine.Command

open Lexical
open Lexical.CommandLine

/-- The number of an error of the system, with what the system says of it. Where the number is given as a
negative one, it is the number of the same error. -/
def systemError? : IO.Error → Option (Nat × String)
  | .alreadyExists _ code details | .otherError code details | .resourceBusy code details
  | .resourceVanished code details | .unsupportedOperation code details | .hardwareFault code details
  | .unsatisfiedConstraints code details | .illegalOperation code details | .protocolError code details
  | .timeExpired code details | .interrupted _ code details | .noFileOrDirectory _ code details
  | .invalidArgument _ code details | .permissionDenied _ code details
  | .resourceExhausted _ code details | .inappropriateType _ code details | .noSuchThing _ code details =>
      some (code.toInt32.toInt.natAbs, details)
  | .unexpectedEof | .userError _ => none

/-- Why a file could not be used, as the system tells it. -/
def fileError (error : IO.Error) : FileError :=
  match systemError? error with
  | some (2, _) => .notFound
  | some (20, _) => .notADirectory
  | some (21, _) => .isADirectory
  | some (36, _) => .nameTooLong
  | some (code, details) => .other (details ++ " (os error " ++ toString code ++ ")").toList
  | none => .other (toString error).toList

/-- The text of the file at a path. -/
def readText (path : Text) : IO (Except FileError Text) := do
  try
    let bytes ← IO.FS.readBinFile (String.ofList path)
    match String.fromUTF8? bytes with
    | some content => return .ok content.toList
    | none => return .error .notText
  catch error => return .error (fileError error)

/-- Writes a text to the file at a path. -/
def writeText (path content : Text) : IO (Except FileError Unit) := do
  try
    IO.FS.withFile (String.ofList path) .write fun file => do
      file.putStr (String.ofList content)
      file.flush
    return .ok ()
  catch error => return .error (fileError error)

/-- The files of the system. -/
def systemFiles : FileAccess IO where
  read := readText
  write := writeText

/-- Prints how a command ends, and gives its exit code. -/
def finish (ending : Ending) : IO UInt32 := do
  IO.print (String.ofList ending.output)
  IO.eprint (String.ofList ending.errors)
  return ending.exitCode.toUInt32

/-- Runs a command on the files of the system. -/
def main (arguments : List String) : IO UInt32 := do
  finish (← execute systemFiles (arguments.map String.toList))
