/-
Module: Lexical.CommandLine.Files
Layer: Command line
Purpose: The files that a command reads and writes. A command reaches them only through a `FileAccess`, and
  all that is relied on is said by `FileAccess.Lawful`: a file is read or written as a whole or not at all,
  and nothing else is changed. The program hands the files of the system to its command; a `Directory` is
  a system of files that is given as a value. There a path is followed name by name, from the root or from
  the working directory, and every name but the last must be that of a directory; there are no links.
Imports: Lexical.Text.Basic
Main exports: FileError, FileError.message, FileAccess, FileView, FileAccess.Lawful, Entry, Access,
  Directory, Directory.resolve, Directory.read, Directory.write, Directory.files, Directory.view,
  Directory.changes
-/

import Lexical.Text.Basic

namespace Lexical.CommandLine

/-- Why a file could not be read or written. -/
inductive FileError where
  | notFound
  | notADirectory
  | isADirectory
  /-- The path, or a name in it, is longer than names can be. -/
  | nameTooLong
  /-- The bytes of the file are not UTF-8. -/
  | notText
  /-- Any other reason, in the words of the system. -/
  | other (reason : Text)
deriving DecidableEq, Repr

/-- The reason as messages give it. -/
def FileError.message : FileError → Text
  | .notFound => "No such file or directory (os error 2)".toList
  | .notADirectory => "Not a directory (os error 20)".toList
  | .isADirectory => "Is a directory (os error 21)".toList
  | .nameTooLong => "File name too long (os error 36)".toList
  | .notText => "stream did not contain valid UTF-8".toList
  | .other reason => reason

/-! ### What a command needs of its files -/

/-- How files are read and written by their paths. -/
structure FileAccess (m : Type → Type) where
  /-- The text that the file holds, or why there is none. -/
  read (path : Text) : m (Except FileError Text)
  /-- Gives the file a text in place of what it held, or tells why this cannot be done. -/
  write (path content : Text) : m (Except FileError Unit)

/-- What there is to see of the files in a state. -/
structure FileView (State : Type) where
  Place : Type
  /-- What can be found at a place, be it a text or not. -/
  Content : Type
  /-- The place to which a path leads, whether or not there is a file yet. -/
  place? : State → Text → Option Place
  contentAt : State → Place → Content
  /-- What is found where a file holds the text. -/
  ofText : Text → Content

/-- Files are read and written as a whole or not at all. -/
structure FileAccess.Lawful {State : Type} (files : FileAccess (StateM State)) (view : FileView State) :
    Prop where
  /-- Reading changes nothing. -/
  read_unchanged : ∀ state path, ((files.read path).run state).2 = state
  /-- What is read is all that the file holds. -/
  read_whole : ∀ state path content, ((files.read path).run state).1 = .ok content →
    ∃ place, view.place? state path = some place ∧ view.contentAt state place = view.ofText content
  /-- What is written is all that the file holds afterwards, and nothing else is changed. -/
  write_whole : ∀ state path content after, (files.write path content).run state = (.ok (), after) →
    ∃ place, view.place? state path = some place ∧ view.place? after path = some place ∧
      view.contentAt after place = view.ofText content ∧
        ∀ other, other ≠ place → view.contentAt after other = view.contentAt state other
  /-- What cannot be written changes nothing. -/
  write_refused : ∀ state path content reason after,
    (files.write path content).run state = (.error reason, after) → after = state

/-! ### A system of files as a value -/

/-- What a path can lead to. -/
inductive Entry where
  /-- A file that holds a text. -/
  | text (content : Text)
  /-- A file whose bytes are no text. -/
  | binary
  | directory
deriving DecidableEq, Repr

/-- What the system may refuse to do at a place. -/
inductive Access where
  /-- To follow a name from there. -/
  | search
  | read
  | write
deriving DecidableEq, Repr

/-- The names on the way from the root to an entry. -/
abbrev Path := List Text

/-- A system of files, with the directory in which a command runs. -/
structure Directory where
  entries : List (Path × Entry)
  /-- The working directory. -/
  here : Path
  /-- What the system refuses, with its reason: a permission is missing, no space is left, a device does
  not answer. -/
  refusals : List ((Access × Path) × Text)
deriving DecidableEq, Repr

namespace Directory

/-- A working directory with the given entries and nothing beside it. Their paths are written with
slashes, and nothing is refused. -/
def ofList (entries : List (Text × Entry)) : Directory :=
  let here := ["work".toList]
  { entries := entries.map fun (name, entry) => (here ++ List.splitOn '/' name, entry)
    here
    refusals := [] }

/-- What the names lead to, if the entry is listed. -/
def entry? (directory : Directory) (path : Path) : Option Entry :=
  directory.entries.lookup path

/-- Whether the names lead to a directory: to the working directory or to one that it is in, to one that is
listed, or to one that is not listed but has an entry below it. -/
def isDirectory (directory : Directory) (path : Path) : Bool :=
  path.isPrefixOf directory.here || directory.entry? path == some .directory ||
    directory.entries.any fun (below, _) => path.isPrefixOf below && path != below

/-- What is wrong if the names are taken for those of a directory. -/
def noDirectory (directory : Directory) (path : Path) : FileError :=
  if (directory.entry? path).isSome then .notADirectory else .notFound

/-- Fails if the system refuses the access. -/
def permit (directory : Directory) (access : Access) (path : Path) : Except FileError Unit :=
  match directory.refusals.lookup (access, path) with
  | some reason => .error (.other reason)
  | none => .ok ()

/-- The number of bytes that a name can have. -/
def maxNameLength : Nat := 255

/-- The number of bytes that a path can have. -/
def maxPathLength : Nat := 4095

/-- Where a name leads from a directory. The root is in itself. -/
def enter (directory : Directory) (place : Path) (name : Text) : Except FileError Path := do
  directory.permit .search place
  if name = ['.'] then .ok place
  else if name = ['.', '.'] then .ok place.dropLast
  else if maxNameLength < name.utf8Length then .error .nameTooLong
  else .ok (place ++ [name])

/-- Follows one more name from a place, which must be a directory itself. -/
def step (directory : Directory) (place : Path) (name : Text) : Except FileError Path :=
  if directory.isDirectory place then directory.enter place name
  else .error (directory.noDirectory place)

/-- Follows names from a place. -/
def follow (directory : Directory) (place : Path) : List Text → Except FileError Path
  | [] => .ok place
  | name :: names => do directory.follow (← directory.step place name) names

/-- Where a written path begins: at the root if it begins with a slash. -/
def start (directory : Directory) (path : Text) : Path :=
  if path.head? = some '/' then [] else directory.here

/-- The names of a written path. Slashes next to each other separate only once. -/
def namesOf (path : Text) : List Text :=
  (List.splitOn '/' path).filter (· ≠ [])

/-- The place to which a written path leads. -/
def resolve (directory : Directory) (path : Text) : Except FileError Path :=
  if path = [] then .error .notFound
  else if maxPathLength < path.utf8Length then .error .nameTooLong
  else directory.follow (directory.start path) (namesOf path)

/-- The text that stands at a place. -/
def textAt (directory : Directory) (place : Path) : Except FileError Text :=
  if directory.isDirectory place then .error .isADirectory
  else
    match directory.entry? place with
    | some (.text content) => .ok content
    | some .binary => .error .notText
    | some .directory => .error .isADirectory
    | none => .error .notFound

/-- Follows the slash at the end of a path, if there is one. It leads only from a directory, to itself. -/
def followSlash (directory : Directory) (path : Text) (place : Path) : Except FileError Path :=
  if path.getLast? = some '/' then directory.step place ['.'] else .ok place

/-- The text of the file at a path. -/
def read (directory : Directory) (path : Text) : Except FileError Text := do
  let place ← directory.followSlash path (← directory.resolve path)
  directory.permit .read place
  directory.textAt place

/-- The directory with the entry at the given names replaced, or added if there was none. -/
def put (directory : Directory) (path : Path) (entry : Entry) : Directory :=
  if (directory.entry? path).isSome then
    { directory with
      entries := directory.entries.map fun (name, old) => (name, if name = path then entry else old) }
  else { directory with entries := directory.entries ++ [(path, entry)] }

/-- The directory after a text has been written to a path. What the file held before is lost. A path that
ends like that of a directory cannot be written to. -/
def write (directory : Directory) (path content : Text) : Except FileError Directory := do
  let place ← directory.resolve path
  if path.getLast? = some '/' ∨ directory.isDirectory place then .error .isADirectory
  else do
    directory.permit .write place
    .ok (directory.put place (.text content))

/-- Files are read and written in a directory that changes with what is written. -/
def files : FileAccess (StateM Directory) where
  read path := do return (← get).read path
  write path content := do
    match (← get).write path content with
    | .ok after =>
        set after
        return .ok ()
    | .error reason => return .error reason

/-- The entries of a directory, each at its place. -/
def view : FileView Directory where
  Place := Path
  Content := Option Entry
  place? directory path := (directory.resolve path).toOption
  contentAt := entry?
  ofText content := some (.text content)

/-- The text files in the working directory that were not there before or held something else, by the
names that lead there from the working directory. -/
def changes (before after : Directory) : List (Path × Text) :=
  after.entries.filterMap fun (path, entry) =>
    match entry with
    | .text content =>
        if before.here.isPrefixOf path ∧ before.entry? path ≠ some (.text content) then
          some (path.drop before.here.length, content)
        else none
    | _ => none

end Directory

end Lexical.CommandLine
