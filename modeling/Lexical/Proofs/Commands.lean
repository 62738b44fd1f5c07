/-
Module: Lexical.Proofs.Commands
Layer: Proofs
Purpose: A command does its whole work or none, whatever keeps its files, as long as a file is read and
  written as a whole or not at all. All it ever does to the files is to write one text to the path that the
  output option names, and it does so only when the whole report is there; if it is refused, everything is
  as before (`execute_cases`). What it prints, and what it ends with, follows from the input that was read
  and from what the analysis makes of it.
Imports: Lexical.CommandLine.Command, Lexical.Proofs.Directories, Lexical.Proofs.SourceReading
Main exports: execute_of_begin, execute_cases, Analyzed, AllOrNothing, execute_allOrNothing
-/

import Lexical.CommandLine.Command
import Lexical.Proofs.Directories
import Lexical.Proofs.SourceReading

namespace Lexical.CommandLine

/-! ### What follows from the source -/

/-- A report is saved where the output option says, and printed without one. -/
theorem plan_of_table {request : Arguments} {source : Text} {table : Table}
    (tokenized : tokenize (request.prepared source) = .ok table) :
    plan request (.ok source) =
      match request.output? with
      | none => .stop (.success (request.rendering table))
      | some path => .save path (request.rendering table) := by
  cases output : request.output? <;> simp only [plan, tokenized, output]

/-- The error of a source is shown. -/
theorem plan_of_error {request : Arguments} {source : Text} {error : LexicalError}
    (failed : tokenize (request.prepared source) = .error error) :
    plan request (.ok source) =
      match excerpt error (request.prepared source) request.input with
      | .ok shown => .stop (.rejected shown)
      | .error reason => .stop (.excerptFailure reason) := by
  cases outcome : excerpt error (request.prepared source) request.input <;>
    simp only [plan, failed, outcome]

/-- Nothing is saved but where the output option says. -/
theorem output?_of_plan_eq_save {request : Arguments} {input : Except FileError Text}
    {path content : Text} (saves : plan request input = .save path content) :
    request.output? = some path := by
  cases input with
  | error reason => cases saves
  | ok source =>
      cases tokenized : tokenize (request.prepared source) with
      | error error =>
          rw [plan_of_error tokenized] at saves
          split at saves <;> cases saves
      | ok table =>
          rw [plan_of_table tokenized] at saves
          split at saves <;> cases saves
          assumption

/-! ### What becomes of a plan -/

variable {State : Type} {view : FileView State} {files : FileAccess (StateM State)} {state : State}
  {arguments : List Text} {request : Arguments}

/-- Without anything to analyze a command only ends. -/
theorem execute_of_begin_error {ending : Ending} (begun : begin arguments = .error ending) :
    (execute files arguments).run state = (ending, state) := by
  simp only [execute, begun]
  rfl

section Begun

variable {ending : Ending} {after : State} (lawful : files.Lawful view)
  (begun : begin arguments = .ok request) (ran : (execute files arguments).run state = (ending, after))

include lawful begun

/-- The input is read, and then the plan is carried out where nothing has changed yet. -/
theorem execute_of_begin :
    (execute files arguments).run state =
      ((plan request ((files.read request.input).run state).1).carryOut files).run state := by
  have unchanged := lawful.read_unchanged state request.input
  cases reads : (files.read request.input).run state with
  | mk input next =>
      rw [reads] at unchanged
      obtain rfl : next = state := unchanged
      simp only [execute, begun, StateT.run_bind, reads]
      rfl

include ran

/-- A command that only ends leaves everything as it is. -/
theorem ends_of_stop {final : Ending}
    (stops : plan request ((files.read request.input).run state).1 = .stop final) :
    ending = final ∧ after = state := by
  rw [execute_of_begin lawful begun, stops] at ran
  obtain ⟨⟩ := ran
  exact ⟨rfl, rfl⟩

/-- What saving a report comes to decides how the command ends. -/
theorem ends_of_save {path content : Text} {result : Except FileError Unit} {next : State}
    (saves : plan request ((files.read request.input).run state).1 = .save path content)
    (written : (files.write path content).run state = (result, next)) :
    ending = afterSaving path result ∧ after = next := by
  rw [execute_of_begin lawful begun, saves, Plan.carryOut, StateT.run_bind, written] at ran
  obtain ⟨⟩ := ran
  exact ⟨rfl, rfl⟩

/-- A command leaves the files as they are, or it ends well and has written to the path of the output. -/
theorem execute_cases :
    after = state ∨ ∃ path content, request.output? = some path ∧ ending.exitCode = 0 ∧
      (files.write path content).run state = (.ok (), after) := by
  cases planned : plan request ((files.read request.input).run state).1 with
  | stop final => exact .inl (ends_of_stop lawful begun ran planned).2
  | save path content =>
      cases written : (files.write path content).run state with
      | mk result next =>
          obtain ⟨rfl, rfl⟩ := ends_of_save lawful begun ran planned written
          cases result with
          | ok => exact .inr ⟨path, content, output?_of_plan_eq_save planned, rfl, written⟩
          | error reason => exact .inl (lawful.write_refused _ _ _ _ _ written)

end Begun

/-! ### All or nothing -/

/-- How a command ends that has a text to analyze, and what has become of the files. -/
structure Analyzed (files : FileAccess (StateM State)) (view : FileView State) (request : Arguments)
    (text : Text) (report : Table → Text) (state : State) (ending : Ending) (after : State) : Prop where
  /-- Without an output option the report is printed, and nothing is changed. -/
  printed : ∀ table, tokenize text = .ok table → request.output? = none →
    ending = { exitCode := 0, output := report table, errors := [] } ∧ after = state
  /-- The report is the whole content of an output file that can be written. -/
  saved : ∀ table path next, tokenize text = .ok table → request.output? = some path →
    (files.write path (report table)).run state = (.ok (), next) →
      ending =
        { exitCode := 0, output := "Results saved to '".toList ++ path ++ "'.\n".toList, errors := [] } ∧
          ∃ place, view.place? state path = some place ∧ view.place? after path = some place ∧
            view.contentAt after place = view.ofText (report table)
  /-- The report is not printed in place of being saved. -/
  unsaved : ∀ table path reason next, tokenize text = .ok table → request.output? = some path →
    (files.write path (report table)).run state = (.error reason, next) →
      ending =
        { exitCode := 1, output := [],
          errors := "Error: could not write ".toList ++ path ++ ": ".toList ++ reason.message ++ ['\n'] } ∧
          after = state
  /-- The error of a text is shown in place of a report, and nothing is changed. -/
  rejected : ∀ error shown, tokenize text = .error error →
    excerpt error text request.input = .ok shown →
      ending = { exitCode := 1, output := shown, errors := [] } ∧ after = state
  /-- An error that cannot be shown leaves nothing to print, and nothing is changed. -/
  unshown : ∀ error reason, tokenize text = .error error →
    excerpt error text request.input = .error reason →
      ending.exitCode = 101 ∧ ending.output = [] ∧ after = state

/-- How a command ends that has something to analyze, and what has become of the files. -/
structure AllOrNothing (files : FileAccess (StateM State)) (view : FileView State) (request : Arguments)
    (state : State) (ending : Ending) (after : State) : Prop where
  /-- Nothing is changed but the file that the output option names. -/
  others : ∀ place, (∀ path, request.output? = some path → view.place? state path ≠ some place) →
    view.contentAt after place = view.contentAt state place
  /-- There is no report without a source, and nothing is changed. -/
  unread : ∀ reason, ((files.read request.input).run state).1 = .error reason →
    ending =
      { exitCode := 1, output := [],
        errors := "Error: could not read ".toList ++ request.input ++ ": ".toList ++ reason.message ++
          ['\n'] } ∧
        after = state
  /-- The source is all that the input file holds. -/
  whole : ∀ source, ((files.read request.input).run state).1 = .ok source →
    ∃ place, view.place? state request.input = some place ∧
      view.contentAt state place = view.ofText source
  /-- The source is analyzed, with its comments only if they are to be kept, and the report on it is the
  whole one or the token list alone. -/
  analyzed : ∀ source, ((files.read request.input).run state).1 = .ok source →
    Analyzed files view request (if request.keepComments then source else Comment.strip source)
      (fun table => if request.tokensOnly then (Report.ofTable table).tokenList
        else (Report.ofTable table).text) state ending after

section Ends

variable {ending : Ending} {after : State} (lawful : files.Lawful view)
  (begun : begin arguments = .ok request) (ran : (execute files arguments).run state = (ending, after))

include lawful begun ran

/-- A command changes only the file that its output option names. -/
theorem contentAt_of_execute {place : view.Place}
    (other : ∀ path, request.output? = some path → view.place? state path ≠ some place) :
    view.contentAt after place = view.contentAt state place := by
  obtain rfl | ⟨path, content, output, -, written⟩ := execute_cases lawful begun ran
  · rfl
  · obtain ⟨written, leads, -, -, untouched⟩ := lawful.write_whole _ _ _ _ written
    refine untouched place ?_
    rintro rfl
    exact other path output leads

/-- What is made of a source that has been read. -/
theorem analyzed_of_read {source : Text} (read : ((files.read request.input).run state).1 = .ok source) :
    Analyzed files view request (request.prepared source) request.rendering state ending after := {
  printed := fun table tokenized noOutput => by
    refine ends_of_stop lawful begun ran ?_
    rw [read, plan_of_table tokenized, noOutput]
    rfl
  saved := fun table path next tokenized output written => by
    obtain ⟨rfl, rfl⟩ := ends_of_save lawful begun ran (by rw [read, plan_of_table tokenized, output]) written
    obtain ⟨place, leads, leads', holds, -⟩ := lawful.write_whole _ _ _ _ written
    exact ⟨rfl, place, leads, leads', holds⟩
  unsaved := fun table path reason next tokenized output refused => by
    obtain ⟨rfl, rfl⟩ := ends_of_save lawful begun ran (by rw [read, plan_of_table tokenized, output]) refused
    exact ⟨rfl, lawful.write_refused _ _ _ _ _ refused⟩
  rejected := fun error shown failed shows => by
    refine ends_of_stop lawful begun ran ?_
    rw [read, plan_of_error failed, shows]
    rfl
  unshown := fun error reason failed fails => by
    have stops : plan request (.ok source) = .stop (.excerptFailure reason) := by
      rw [plan_of_error failed, fails]
    obtain ⟨rfl, rfl⟩ := ends_of_stop lawful begun ran (read ▸ stops)
    exact ⟨rfl, rfl, rfl⟩ }

/-- A command with something to analyze does all of its work or none. -/
theorem allOrNothing_of_begin : AllOrNothing files view request state ending after := {
  others := fun _ => contentAt_of_execute lawful begun ran
  unread := fun reason unread => by
    refine ends_of_stop lawful begun ran ?_
    rw [unread]
    rfl
  whole := fun source => lawful.read_whole state request.input source
  analyzed := fun _ => analyzed_of_read lawful begun ran }

end Ends

/-- A command does all of its work, or it fails and changes nothing. -/
theorem execute_allOrNothing (lawful : files.Lawful view) (arguments : List Text) (state : State) :
    ∃ ending after, (execute files arguments).run state = (ending, after) ∧
      (ending.exitCode ≠ 0 → after = state) ∧
      (∀ error, Request.ofArguments arguments = .error error →
        ending.exitCode = 2 ∧ ending.output = [] ∧ after = state) ∧
      (Request.ofArguments arguments = .ok .help →
        ending = { exitCode := 0, output := helpText, errors := [] } ∧ after = state) ∧
      (Request.ofArguments arguments = .ok .version →
        ending = { exitCode := 0, output := versionText, errors := [] } ∧ after = state) ∧
      ∀ request, Request.ofArguments arguments = .ok (.analyze request) →
        AllOrNothing files view request state ending after := by
  cases ran : (execute files arguments).run state with
  | mk ending after =>
      have ends : ∀ final, begin arguments = .error final → ending = final ∧ after = state := by
        intro final begun
        rw [execute_of_begin_error begun] at ran
        obtain ⟨⟩ := ran
        exact ⟨rfl, rfl⟩
      refine ⟨ending, after, rfl, fun failed => ?_, fun error wrong => ?_, fun help => ?_,
        fun version => ?_, fun request analyze => ?_⟩
      · cases begun : begin arguments with
        | error final => exact (ends final begun).2
        | ok request =>
            obtain unchanged | ⟨-, -, -, succeeded, -⟩ := execute_cases lawful begun ran
            · exact unchanged
            · exact absurd succeeded failed
      · obtain ⟨rfl, rfl⟩ := ends (.usageFailure error) (by simp only [begin, wrong])
        exact ⟨rfl, rfl, rfl⟩
      · exact ends (.success helpText) (by simp only [begin, help])
      · exact ends (.success versionText) (by simp only [begin, version])
      · exact allOrNothing_of_begin lawful (by simp only [begin, analyze]) ran

/-- A report that replaces an old one. The source stays. -/
theorem execute_allOrNothing_replaces :
    ∃ after, run (Directory.ofList [("a.c".toList, .text ['x']), ("r.txt".toList, .text "old".toList)])
        (["a.c", "--keep-comments", "--tokens-only", "-o", "./r.txt"].map String.toList) =
          ({ exitCode := 0, output := "Results saved to './r.txt'.\n".toList, errors := [] }, after) ∧
      after.entry? ["work".toList, "r.txt".toList] = some (.text "[1,1] ID: x\n".toList) ∧
        after.entry? ["work".toList, "a.c".toList] = some (.text ['x']) := by
  generalize isDirectory : Directory.ofList _ = directory
  generalize isArguments : List.map String.toList _ = arguments
  have isRequest : Request.ofArguments arguments = .ok (.analyze
      { input := "a.c".toList, output? := some "./r.txt".toList, keepComments := true,
        tokensOnly := true }) := by
    rw [← isArguments]
    rfl
  have leads : Directory.view.place? directory "./r.txt".toList =
      some ["work".toList, "r.txt".toList] := by
    rw [← isDirectory]
    rfl
  have read : ((Directory.files.read "a.c".toList).run directory).1 = .ok ['x'] := by
    rw [← isDirectory]
    rfl
  obtain ⟨next, written⟩ : ∃ next,
      (Directory.files.write "./r.txt".toList "[1,1] ID: x\n".toList).run directory = (.ok (), next) := by
    rw [← isDirectory]
    exact ⟨_, rfl⟩
  have notKeyword : wordCategory ['x'] = .identifier := by decide
  have word : Forced (.lexeme (wordCategory ['x']) ['x']) [] :=
    .word rfl (List.forall_mem_nil _) (Text.stopsRun_nil _)
  rw [notKeyword] at word
  have cut : Cut ['x'] [.lexeme .identifier ['x']] := .cons word .nil
  obtain ⟨ending, after, ran, -, -, -, -, ends⟩ :=
    execute_allOrNothing Directory.files_lawful arguments directory
  have whole := ends _ isRequest
  obtain ⟨isEnding, place, leads', -, holds⟩ :=
    (whole.analyzed _ read).saved _ _ _ (tokenize_of_cut rfl cut) rfl written
  obtain rfl : ["work".toList, "r.txt".toList] = place := Option.some.inj (leads.symm.trans leads')
  refine ⟨after, ran.trans (congrArg (·, after) isEnding), holds, ?_⟩
  refine (whole.others ["work".toList, "a.c".toList] ?_).trans ?_
  · rintro path ⟨⟩ leads'
    have same : some ["work".toList, "r.txt".toList] = some ["work".toList, "a.c".toList] :=
      leads.symm.trans leads'
    exact absurd same (by decide)
  · rw [← isDirectory]
    rfl

end Lexical.CommandLine
