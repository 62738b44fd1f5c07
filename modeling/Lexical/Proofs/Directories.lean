/-
Module: Lexical.Proofs.Directories
Layer: Proofs
Purpose: Files that are read and written by path. A path leads to a file through directories only, so the
  place of a file is a name in a directory (`Leads.inDirectory`). Writing there puts a file where no
  directory was and adds none (`Leads.isDirectory_put`): every path leads where it led before, what was
  written is read back, and every other entry stays. So a directory keeps the law that commands rely on
  (`files_lawful`).
Imports: Lexical.CommandLine.Files
Main exports: Directory.Leads, Directory.entry?_put, Directory.isDirectory_iff, Directory.read_eq_ok_iff,
  Directory.write_eq_ok_iff, Directory.Leads.isDirectory_put, Directory.Leads.resolve_put_iff,
  Directory.files_lawful
-/

import Lexical.CommandLine.Files

namespace Lexical.CommandLine.Directory

/-- A path leads to the place of a file, whether or not there is a file yet. -/
structure Leads (directory : Directory) (path : Text) (place : Path) : Prop where
  resolves : directory.resolve path = .ok place
  notClosed : path.getLast? ≠ some '/'
  noDirectory : directory.isDirectory place = false

/-- Two results in a row: the first has to be there for the second. -/
theorem bind_eq_ok_iff {α β : Type} {first : Except FileError α} {next : α → Except FileError β}
    {result : β} : (first >>= next) = .ok result ↔ ∃ value, first = .ok value ∧ next value = .ok result := by
  cases first <;> simp [bind, Except.bind]

/-! ### A directory by its entries -/

/-- The first entry that is listed for a path is the one that counts. -/
theorem entry?_eq (directory : Directory) (path : Path) :
    directory.entry? path = directory.entries.lookup path := rfl

/-- To replace all entries of a path replaces the one that counts. -/
theorem lookup_replaced (entries : List (Path × Entry)) (place : Path) (entry : Entry) (other : Path) :
    (entries.map fun (name, old) => (name, if name = place then entry else old)).lookup other =
      (entries.lookup other).map fun old => if other = place then entry else old := by
  induction entries with
  | nil => rfl
  | cons head entries ih =>
      obtain ⟨name, old⟩ := head
      rw [List.map_cons, List.lookup_cons, List.lookup_cons, ih]
      cases same : other == name with
      | true =>
          rw [eq_of_beq same]
          rfl
      | false => rfl

/-- An entry is put at its place, and no other is touched. -/
theorem entry?_put (directory : Directory) (place : Path) (entry : Entry) (other : Path) :
    Directory.entry? (directory.put place entry) other =
      if other = place then some entry else directory.entry? other := by
  unfold put
  split
  case isTrue listed =>
    rw [entry?_eq, lookup_replaced, ← entry?_eq]
    obtain ⟨old, isOld⟩ := Option.isSome_iff_exists.mp listed
    by_cases same : other = place
    · rw [if_pos same, same, isOld, Option.map_some, if_pos rfl]
    · simp [same]
  case isFalse unlisted =>
    rw [Bool.not_eq_true, Option.isSome_eq_false_iff, Option.isNone_iff_eq_none] at unlisted
    rw [entry?_eq, List.lookup_append, ← entry?_eq, List.lookup_cons]
    by_cases same : other = place
    · rw [if_pos same, same, unlisted, beq_self_eq_true]
      rfl
    · rw [if_neg same, beq_false_of_ne same]
      exact Option.or_none

@[simp] theorem here_put (directory : Directory) (place : Path) (entry : Entry) :
    (directory.put place entry).here = directory.here := by
  rw [put]
  split <;> rfl

/-- What is refused does not depend on the entries. -/
theorem permit_put (directory : Directory) (place : Path) (entry : Entry) (access : Access) (path : Path) :
    (directory.put place entry).permit access path = directory.permit access path := by
  rw [put]
  split <;> rfl

/-- What a directory is follows from where the command runs and from which entries there are. -/
theorem isDirectory_iff (directory : Directory) (path : Path) :
    directory.isDirectory path = true ↔ path <+: directory.here ∨
      directory.entry? path = some .directory ∨
        ∃ below, (directory.entry? below).isSome ∧ path <+: below ∧ path ≠ below := by
  have listed (below : Path) :
      (directory.entry? below).isSome ↔ ∃ entry, (below, entry) ∈ directory.entries := by
    rw [entry?_eq, List.lookup_isSome_iff]
    simp
  simp only [isDirectory, Bool.or_eq_true, beq_iff_eq, List.any_eq_true, Bool.and_eq_true,
    List.isPrefixOf_iff_prefix, bne_iff_ne, listed, or_assoc, Prod.exists]
  simp only [exists_and_right]

/-- What a directory is in is a directory. -/
theorem isDirectory_of_inside {directory : Directory} {above path : Path} (inside : above <+: path)
    (isDirectory : directory.isDirectory path = true) : directory.isDirectory above = true := by
  by_cases same : above = path
  · rwa [same]
  rw [isDirectory_iff] at isDirectory ⊢
  obtain around | listed | ⟨below, listed, further, -⟩ := isDirectory
  · exact .inl (inside.trans around)
  · exact .inr (.inr ⟨path, by rw [listed]; rfl, inside, same⟩)
  · refine .inr (.inr ⟨below, listed, inside.trans further, ?_⟩)
    rintro rfl
    exact same (inside.eq_of_length (Nat.le_antisymm inside.length_le further.length_le))

/-! ### Following names -/

/-- A name leads from a directory to itself, to the one that it is in, or to something in it. -/
theorem enter_eq_ok_iff {directory : Directory} {place : Path} {name : Text} {next : Path} :
    directory.enter place name = .ok next ↔ directory.permit .search place = .ok () ∧
      ((name = ['.'] ∧ place = next) ∨ (name = ['.', '.'] ∧ place.dropLast = next) ∨
        (name ≠ ['.'] ∧ name ≠ ['.', '.'] ∧ name.utf8Length ≤ maxNameLength ∧
          place ++ [name] = next)) := by
  rw [enter]
  cases directory.permit .search place with
  | error reason => simp [bind, Except.bind]
  | ok =>
      simp only [bind, Except.bind, true_and]
      by_cases dot : name = ['.']
      · simp [dot]
      by_cases dots : name = ['.', '.']
      · simp [dots]
      · by_cases long : maxNameLength < name.utf8Length <;> simp [dot, dots, long, ← Nat.not_lt]

/-- A step leads on from a directory only. -/
theorem step_eq_ok_iff {directory : Directory} {place : Path} {name : Text} {next : Path} :
    directory.step place name = .ok next ↔
      directory.isDirectory place = true ∧ directory.enter place name = .ok next := by
  rw [step]
  split <;> simp [*]

/-- The last name is followed from where the names before it lead. -/
theorem follow_concat (directory : Directory) (here : Path) (names : List Text) (name : Text) :
    directory.follow here (names ++ [name]) =
      directory.follow here names >>= fun parent => directory.step parent name := by
  induction names generalizing here with
  | nil =>
      rw [List.nil_append, follow, follow]
      simp only [follow]
      exact bind_pure _
  | cons first names ih =>
      rw [List.cons_append, follow, follow, bind_assoc]
      exact congrArg _ (funext fun next => ih next)

/-- What is a directory, and what is refused, decides where names lead. -/
theorem follow_congr {one two : Directory}
    (same : ∀ path, one.isDirectory path = two.isDirectory path)
    (allowed : ∀ access path, one.permit access path = two.permit access path)
    {place last : Path} {names : List Text} :
    one.follow place names = .ok last ↔ two.follow place names = .ok last := by
  induction names generalizing place with
  | nil => rfl
  | cons name names ih =>
      rw [follow, follow, bind_eq_ok_iff, bind_eq_ok_iff]
      simp only [step_eq_ok_iff, enter_eq_ok_iff, same, allowed, ih]

/-- A path is followed name by name if it is neither empty nor too long. -/
theorem resolve_eq_ok_iff {directory : Directory} {path : Text} {place : Path} :
    directory.resolve path = .ok place ↔ path ≠ [] ∧ path.utf8Length ≤ maxPathLength ∧
      directory.follow (directory.start path) (namesOf path) = .ok place := by
  rw [resolve]
  by_cases empty : path = []
  · simp [empty]
  · by_cases long : maxPathLength < path.utf8Length <;> simp [empty, long, ← Nat.not_lt]

/-! ### Where a path leads -/

/-- A written path begins in a directory. -/
theorem isDirectory_start (directory : Directory) (path : Text) :
    directory.isDirectory (directory.start path) = true := by
  refine (isDirectory_iff ..).mpr (.inl ?_)
  rw [start]
  split
  · exact List.nil_prefix
  · exact List.prefix_rfl

/-- A file has a name in a directory. -/
theorem Leads.inDirectory {directory : Directory} {path : Text} {place : Path}
    (leads : directory.Leads path place) :
    ∃ parent name, place = parent ++ [name] ∧ directory.isDirectory parent = true := by
  obtain ⟨-, -, follows⟩ := resolve_eq_ok_iff.mp leads.resolves
  have noDirectory := leads.noDirectory
  obtain none | ⟨front, name, isNames⟩ := (namesOf path).eq_nil_or_concat
  · rw [none, follow, Except.ok.injEq] at follows
    rw [← follows, isDirectory_start] at noDirectory
    cases noDirectory
  rw [isNames, List.concat_eq_append, follow_concat, bind_eq_ok_iff] at follows
  obtain ⟨parent, -, steps⟩ := follows
  obtain ⟨isDirectory, enters⟩ := step_eq_ok_iff.mp steps
  obtain ⟨-, ⟨-, rfl⟩ | ⟨-, rfl⟩ | ⟨-, -, -, isPlace⟩⟩ := enter_eq_ok_iff.mp enters
  -- dots lead to directories, where no file stands
  · rw [isDirectory] at noDirectory
    cases noDirectory
  · rw [isDirectory_of_inside parent.dropLast_prefix isDirectory] at noDirectory
    cases noDirectory
  · exact ⟨parent, name, isPlace.symm, isDirectory⟩

/-- The text at a place is that of the file there. -/
theorem textAt_eq_ok_iff {directory : Directory} {place : Path} {content : Text} :
    directory.textAt place = .ok content ↔
      directory.isDirectory place = false ∧ directory.entry? place = some (.text content) := by
  rw [textAt]
  split
  case isTrue isDirectory => simp [isDirectory]
  case isFalse noDirectory => split <;> simp [*]

/-- A path can be read if it leads to a file with a text that may be read. -/
theorem read_eq_ok_iff {directory : Directory} {path content : Text} :
    directory.read path = .ok content ↔ ∃ place, directory.Leads path place ∧
      directory.permit .read place = .ok () ∧ directory.entry? place = some (.text content) := by
  simp only [read, followSlash, bind_eq_ok_iff, textAt_eq_ok_iff]
  constructor
  · rintro ⟨named, resolves, place, isPlace, ⟨⟩, permitted, noDirectory, listed⟩
    split at isPlace
    case isTrue =>
      obtain ⟨isDirectory, enters⟩ := step_eq_ok_iff.mp isPlace
      obtain rfl : named = place := by simpa using (enter_eq_ok_iff.mp enters).2
      rw [isDirectory] at noDirectory
      cases noDirectory
    case isFalse notClosed =>
      obtain rfl := Except.ok.inj isPlace
      exact ⟨named, ⟨resolves, notClosed, noDirectory⟩, permitted, listed⟩
  · rintro ⟨place, ⟨resolves, notClosed, noDirectory⟩, permitted, listed⟩
    exact ⟨place, resolves, place, if_neg notClosed, (), permitted, noDirectory, listed⟩

/-- A path may begin at the root, and leads no farther up than to it. -/
example : (ofList [("a.c".toList, .text ['x'])]).read "/../work/./a.c".toList = .ok ['x'] := rfl

/-- A path can be written to if it leads to where a file may be written, which then has the text. -/
theorem write_eq_ok_iff {directory after : Directory} {path content : Text} :
    directory.write path content = .ok after ↔ ∃ place, directory.Leads path place ∧
      directory.permit .write place = .ok () ∧ directory.put place (.text content) = after := by
  simp only [write, bind_eq_ok_iff]
  constructor
  · rintro ⟨place, resolves, written⟩
    split at written
    case isTrue => cases written
    case isFalse allowed =>
      rw [not_or, Bool.not_eq_true] at allowed
      obtain ⟨⟨⟩, permitted, written⟩ := bind_eq_ok_iff.mp written
      exact ⟨place, ⟨resolves, allowed.1, allowed.2⟩, permitted, Except.ok.inj written⟩
  · rintro ⟨place, ⟨resolves, notClosed, noDirectory⟩, permitted, rfl⟩
    refine ⟨place, resolves, ?_⟩
    rw [noDirectory, if_neg (by simp [notClosed]), permitted]
    rfl

/-- What may be read need not be open to writing. -/
example :
    let directory := { ofList [("a.c".toList, .text ['x'])] with
      refusals := [((.write, ["work".toList, "a.c".toList]), "Permission denied (os error 13)".toList)] }
    directory.read "a.c".toList = .ok ['x'] ∧
      directory.write "a.c".toList [] = .error (.other "Permission denied (os error 13)".toList) :=
  ⟨rfl, rfl⟩

/-! ### After a file has been written -/

/-- A file makes directories of what its place is in. -/
theorem isDirectory_put_iff {directory : Directory} {place : Path}
    (noDirectory : directory.isDirectory place = false) (content : Text) (other : Path) :
    (directory.put place (.text content)).isDirectory other = true ↔
      directory.isDirectory other = true ∨ (other <+: place ∧ other ≠ place) := by
  have isSome (below : Path) : (Directory.entry? (directory.put place (.text content)) below).isSome ↔
      below = place ∨ (directory.entry? below).isSome := by
    rw [entry?_put]
    split <;> simp [*]
  have listed : Directory.entry? (directory.put place (.text content)) other = some .directory ↔
      directory.entry? other = some .directory := by
    rw [entry?_put]
    split
    case isTrue same =>
      have notListed : directory.entry? other ≠ some .directory := fun listed => by
        rw [← same, (isDirectory_iff ..).mpr (.inr (.inl listed))] at noDirectory
        cases noDirectory
      simp [notListed]
    case isFalse => rfl
  simp only [isDirectory_iff, here_put, listed, isSome, or_and_right, exists_or, exists_eq_left]
  grind

/-- Writing a file makes no directory and removes none. -/
theorem Leads.isDirectory_put {directory : Directory} {path : Text} {place : Path}
    (leads : directory.Leads path place) (content : Text) (other : Path) :
    (directory.put place (.text content)).isDirectory other = directory.isDirectory other := by
  obtain ⟨parent, name, isPlace, isDirectory⟩ := leads.inDirectory
  rw [Bool.eq_iff_iff, isDirectory_put_iff leads.noDirectory, or_iff_left_iff_imp]
  rintro ⟨inside, differs⟩
  rw [isPlace] at inside differs
  exact isDirectory_of_inside ((List.prefix_concat_iff.mp inside).resolve_left differs) isDirectory

/-- After a file has been written, every path leads to where it led before. -/
theorem Leads.resolve_put_iff {directory : Directory} {path : Text} {place : Path}
    (leads : directory.Leads path place) (content : Text) {other : Text} {elsewhere : Path} :
    (directory.put place (.text content)).resolve other = .ok elsewhere ↔
      directory.resolve other = .ok elsewhere := by
  rw [resolve_eq_ok_iff, resolve_eq_ok_iff, start, start, here_put,
    follow_congr (leads.isDirectory_put content) (permit_put directory place _)]

/-! ### The law of files -/

/-- The place to which a path leads, as it can be seen. -/
theorem place?_view {directory : Directory} {path : Text} {place : Path} :
    view.place? directory path = some place ↔ directory.resolve path = .ok place := by
  change (directory.resolve path).toOption = _ ↔ _
  cases directory.resolve path <;> simp [Except.toOption]

/-- A directory is replaced by what it is after a text has been written, and stays if none is. -/
theorem run_write (directory : Directory) (path content : Text) :
    (files.write path content).run directory =
      match directory.write path content with
      | .ok after => (.ok (), after)
      | .error reason => (.error reason, directory) := by
  change StateT.run (match directory.write path content with
    | .ok after => _
    | .error reason => _) directory = _
  cases directory.write path content <;> rfl

theorem run_write_eq_ok_iff {directory after : Directory} {path content : Text} :
    (files.write path content).run directory = (.ok (), after) ↔
      directory.write path content = .ok after := by
  rw [run_write]
  cases directory.write path content with
  | ok written => exact ⟨by rintro ⟨⟩; rfl, by rintro ⟨⟩; rfl⟩
  | error reason => exact ⟨nofun, nofun⟩

theorem run_write_eq_error_iff {directory after : Directory} {path content : Text} {reason : FileError} :
    (files.write path content).run directory = (.error reason, after) ↔
      directory.write path content = .error reason ∧ after = directory := by
  rw [run_write]
  cases directory.write path content with
  | ok written => exact ⟨nofun, nofun⟩
  | error reason => exact ⟨by rintro ⟨⟩; exact ⟨rfl, rfl⟩, by rintro ⟨⟨⟩, rfl⟩; rfl⟩

/-- A directory is read and written one whole file at a time. -/
theorem files_lawful : files.Lawful view := {
  read_unchanged := fun _ _ => rfl
  read_whole := fun directory path content found => by
    obtain ⟨place, leads, -, listed⟩ := read_eq_ok_iff.mp found
    exact ⟨place, place?_view.mpr leads.resolves, listed⟩
  write_whole := fun directory path content after written => by
    obtain ⟨place, leads, -, rfl⟩ := write_eq_ok_iff.mp (run_write_eq_ok_iff.mp written)
    refine ⟨place, place?_view.mpr leads.resolves,
      place?_view.mpr ((leads.resolve_put_iff content).mpr leads.resolves), ?_, ?_⟩
    · exact (entry?_put ..).trans (if_pos rfl)
    · exact fun other differs => (entry?_put ..).trans (if_neg differs)
  write_refused := fun _ _ _ _ _ refused => (run_write_eq_error_iff.mp refused).2 }

end Lexical.CommandLine.Directory
