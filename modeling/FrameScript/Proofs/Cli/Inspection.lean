import FrameScript.Proofs.Cli.Files
import FrameScript.Proofs.CommandLine.Parts

/-!
# Inspecting a line

A line that is inspected is read up to three times: its kind is told by reading it as an action with
invalid numbers tolerated, an action is read again with the tolerance that was asked for, and
anything else may be split as a command.  The inspection fails only where one of the two readings
does.  The split never does, because a blank line has been told apart before, and neither do the
lists of directions in what is shown, because only a tag that is held asks for its list.
-/

namespace FrameScript

/-- A traversal that does not fail at any of its members is a map. -/
theorem mapM_of_ok {α β ε : Type} {visit : α → Except ε β} {result : α → β} {items : List α}
    (visited : ∀ item ∈ items, visit item = .ok (result item)) :
    items.mapM visit = .ok (items.map result) := by
  induction items with
  | nil => rfl
  | cons first rest ih =>
      have later := ih fun item member => visited item (by simp [member])
      rw [List.mapM_cons, visited first (by simp), later]
      rfl

theorem Held.expand_of_mem {held : Held} {restriction : Restriction}
    (member : .only restriction ∈ held.tags) :
    held.expand restriction = .ok (held.restricted restriction) := by
  rw [expand, if_pos (mem_tags.1 member)]

namespace ActionLine

/-- No tag asks for a list that is not open. -/
theorem expandedText_eq (line : ActionLine) : line.expandedText = .ok line.toText := by
  have fields : line.held.tags.mapM line.expandedField =
      .ok (line.held.tags.map line.tagField) := by
    refine mapM_of_ok fun tag member => ?_
    cases tag with
    | only restriction =>
        rw [expandedField, Held.expand_of_mem member]
        rfl
    | _ => rfl
  rw [expandedText, fields]
  rfl

end ActionLine

namespace Cli

theorem expandedEntries_eq (line : ActionLine) :
    expandedEntries line = .ok (actionEntries line) := by
  have rows : (line.held.tags.mapM fun tag =>
      (expandedDetails line tag).map fun details =>
        [tag.letter.toString, Input.name tag, details]) =
      .ok (line.held.tags.map (tagRow line)) := by
    refine mapM_of_ok fun tag member => ?_
    cases tag with
    | only restriction =>
        rw [expandedDetails, Held.expand_of_mem member]
        rfl
    | _ => rfl
  rw [expandedEntries, rows, line.expandedText_eq]
  rfl

end Cli

theorem Text.trim_of_isVacant {text : Text} (vacant : Text.isVacant text = true) :
    Text.trim text = [] := by
  rcases Text.trim_cases text with ⟨trimmed, _⟩ | ⟨first, rest, visible, trimmed, _⟩
  · exact trimmed
  · have member : first ∈ text := (Text.trim_sublist text).subset (by simp [trimmed])
    rw [List.all_eq_true.1 vacant first member] at visible
    cases visible

/-- A line without a mark can be split as a command. -/
theorem CommandLine.exists_read?_of_unmarked {line : Text}
    (unmarked : LineKind.marked? line = none) : ∃ command, read? line = some command := by
  cases vacant : Text.isVacant line with
  | true =>
      rw [LineKind.marked?, Text.trim_of_isVacant vacant] at unmarked
      cases unmarked
  | false =>
      obtain ⟨command, found, _⟩ := exists_splits vacant
      exact ⟨command, found⟩

namespace Line

variable {line : Text} {tolerant : Bool}

theorem read_of_action {record : ActionLine} (tolerated : ActionLine.read true line = .ok record) :
    read tolerant line = (ActionLine.read tolerant line).outcome.map .action := by
  rw [read, LineKind.of_eq_action_iff.2 ⟨record, tolerated⟩]
  cases (ActionLine.read tolerant line).outcome <;> rfl

theorem read_of_overlong {fault : OverlongCount}
    (refused : ActionLine.read true line = .error (.overlong fault)) :
    read tolerant line = .error fault := by
  rw [read, LineKind.of_eq_error_iff.2 refused]
  rfl

theorem read_of_unmarked {reason : Rejection}
    (rejected : ActionLine.read true line = .error (.rejected reason))
    (unmarked : LineKind.marked? line = none) :
    read tolerant line = .ok (.command (CommandLine.read? line)) := by
  rw [read, LineKind.of_eq_of_rejected rejected, unmarked]
  rfl

/-- A mark tells the whole of a line. -/
theorem read_of_marked (tolerant : Bool) {kind : LineKind}
    (marked : LineKind.marked? line = some kind) :
    ∃ content, read tolerant line = .ok content ∧ content.kind = kind ∧
      content ∈ [Line.empty, .comment, .breakpoint] := by
  have told : LineKind.of line = .ok kind := by simp only [LineKind.of, marked]
  rw [LineKind.marked?] at marked
  rw [read, told]
  repeat' split at marked
  · cases marked
    exact ⟨.empty, rfl, rfl, by decide⟩
  · cases marked
    exact ⟨.comment, rfl, rfl, by decide⟩
  · cases marked
    exact ⟨.breakpoint, rfl, rfl, by decide⟩
  · cases marked

end Line

/-! ## Inspections -/

namespace Cli

/-- A frame count that is too long for one of the readings: the one that tells the kind of the line,
or the one that is shown of an action. -/
def Overlong (tolerant : Bool) (line : Text) (fault : OverlongCount) : Prop :=
  ActionLine.read true line = .error (.overlong fault) ∨
    (∃ record, ActionLine.read true line = .ok record) ∧
      ActionLine.read tolerant line = .error (.overlong fault)

/-- An action that is rejected by the reading that is to be shown. -/
def Invalid (tolerant : Bool) (line : Text) : Prop :=
  (∃ record, ActionLine.read true line = .ok record) ∧
    ∃ reason, ActionLine.read tolerant line = .error (.rejected reason)

/-- Why an inspection fails. -/
inductive Fails (tolerant : Bool) (line : Text) : Prop where
  | overlong (fault : OverlongCount) (refused : Overlong tolerant line fault)
  | invalid (rejected : Invalid tolerant line)

/-- What is shown of a line: the table of an action or of a command, or its kind. -/
inductive Shows (tolerant : Bool) (line : Text) : List Entry → Prop where
  | action (record : ActionLine) (isAction : LineKind.of line = .ok .action)
      (found : ActionLine.read tolerant line = .ok record) :
      Shows tolerant line (actionEntries record)
  | command (command : CommandLine) (isCommand : LineKind.of line = .ok .command)
      (found : CommandLine.read? line = some command) :
      Shows tolerant line (commandEntries command)
  | kind (kind : LineKind) (told : LineKind.of line = .ok kind)
      (marked : LineKind.marked? line = some kind) :
      Shows tolerant line [.info s!"{kind.name.capitalize} line"]

/-- The message that a command has no content. -/
def noContent : Entry := .error "Command line has no content"

/-- What an inspection reports: the only fault is a frame count that is too long, it fails exactly
for such a fault and for invalid numbers, and otherwise it shows the line. -/
structure Inspected (tolerant : Bool) (line : Text) (report : Report) : Prop where
  faults : ∀ fault, report.fault = some fault ↔
    ∃ overlong, fault = .overlong overlong ∧ Overlong tolerant line overlong
  fails : report.exitCode = 1 ↔ Fails tolerant line
  succeeds : ¬Fails tolerant line → report.exitCode = 0 ∧ Shows tolerant line report.console
  content : noContent ∉ report.console

/-- An error is told by the markup at its start. -/
theorem ne_error_of_take {text : String} (other : text.toList.take 6 ≠ "[bold ".toList)
    (message : String) : Entry.error message ≠ .markup text := by
  intro same
  injection same with texts
  rw [← texts] at other
  change ("[bold red]Error:[/bold red] " ++ message).toList.take 6 ≠ _ at other
  simp at other

theorem Shows.noContent_notMem {tolerant : Bool} {line : Text} {entries : List Entry}
    (shows : Shows tolerant line entries) : noContent ∉ entries := by
  intro member
  cases shows with
  | action record isAction found =>
      rcases List.mem_cons.1 member with table | last
      · cases table
      · exact ne_error_of_take (by simp [toString]) _ (List.mem_singleton.1 last)
  | command command isCommand found =>
      rcases List.mem_cons.1 member with table | last
      · cases table
      · exact ne_error_of_take (by simp [toString]) _ (List.mem_singleton.1 last)
  | kind kind told marked =>
      exact ne_error_of_take (by simp [toString]) _ (List.mem_singleton.1 member)

theorem lineEntries_of_plain {content : Line}
    (plain : content ∈ [Line.empty, .comment, .breakpoint]) :
    lineEntries content = (true, [.info s!"{content.kind.name.capitalize} line"]) := by
  rcases List.mem_cons.1 plain with rfl | others
  · rfl
  · rcases List.mem_cons.1 others with rfl | last
    · rfl
    · rw [List.mem_singleton.1 last]
      rfl

variable {tolerant : Bool} {line : Text}

theorem runInspect_of_error (workspace : Workspace) {fault : OverlongCount}
    (refused : Line.read tolerant line = .error fault) :
    (runInspect workspace tolerant line).exitCode = 1 ∧
      (runInspect workspace tolerant line).console = [] ∧
      (runInspect workspace tolerant line).fault = some (.overlong fault) := by
  simp only [runInspect, refused, Report.console, filterMap_entry?_logged, and_self]

theorem runInspect_of_ok (workspace : Workspace) {content : Line}
    (found : Line.read tolerant line = .ok content) :
    (runInspect workspace tolerant line).exitCode = (if (lineEntries content).1 then 0 else 1) ∧
      (runInspect workspace tolerant line).console = (lineEntries content).2 ∧
      (runInspect workspace tolerant line).fault = none := by
  simp only [runInspect, found, Report.console, List.filterMap_append, filterMap_entry?_logged,
    filterMap_entry?_shown, List.nil_append, and_self]

theorem inspected_of_shows {report : Report} {entries : List Entry}
    (valid : ¬Fails tolerant line) (shows : Shows tolerant line entries)
    (reports : report.exitCode = 0 ∧ report.console = entries ∧ report.fault = none) :
    Inspected tolerant line report := by
  obtain ⟨exitCode, console, unfaulted⟩ := reports
  refine ⟨fun fault => ?_, ?_, fun _ => ⟨exitCode, ?_⟩, ?_⟩
  · rw [unfaulted]
    refine iff_of_false (by simp) ?_
    rintro ⟨overlong, _, refused⟩
    exact valid (.overlong overlong refused)
  · rw [exitCode]
    exact iff_of_false (by simp) valid
  · rw [console]
    exact shows
  · rw [console]
    exact shows.noContent_notMem

theorem inspected_of_overlong {report : Report} {fault : OverlongCount}
    (refused : ∀ other, Overlong tolerant line other ↔ other = fault)
    (reports : report.exitCode = 1 ∧ report.console = [] ∧ report.fault = some (.overlong fault)) :
    Inspected tolerant line report := by
  obtain ⟨exitCode, console, faulted⟩ := reports
  have fails : Fails tolerant line := .overlong fault ((refused fault).2 rfl)
  refine ⟨fun other => ?_, iff_of_true exitCode fails, fun valid => absurd fails valid, ?_⟩
  · rw [faulted, Option.some.injEq]
    constructor
    · rintro rfl
      exact ⟨fault, rfl, (refused fault).2 rfl⟩
    · rintro ⟨overlong, rfl, again⟩
      rw [(refused overlong).1 again]
  · rw [console]
    exact List.not_mem_nil

theorem inspected_of_invalid {report : Report} (invalid : Invalid tolerant line)
    (reports : report.exitCode = 1 ∧
      report.console = [.error "Invalid feather angle or magnitude"] ∧ report.fault = none) :
    Inspected tolerant line report := by
  obtain ⟨exitCode, console, unfaulted⟩ := reports
  have fails : Fails tolerant line := .invalid invalid
  refine ⟨fun fault => ?_, iff_of_true exitCode fails, fun valid => absurd fails valid, ?_⟩
  · rw [unfaulted]
    refine iff_of_false (by simp) ?_
    rintro ⟨overlong, _, refused⟩
    obtain ⟨⟨record, tolerated⟩, reason, rejected⟩ := invalid
    rcases refused with refused | ⟨_, refused⟩
    · cases tolerated.symm.trans refused
    · cases rejected.symm.trans refused
  · rw [console]
    decide

theorem inspected_of_action (workspace : Workspace) {record : ActionLine}
    (tolerated : ActionLine.read true line = .ok record) :
    Inspected tolerant line (runInspect workspace tolerant line) := by
  have isAction : LineKind.of line = .ok .action :=
    LineKind.of_eq_action_iff.2 ⟨record, tolerated⟩
  have content : Line.read tolerant line = _ := Line.read_of_action tolerated
  cases found : ActionLine.read tolerant line with
  | ok shown =>
      rw [found] at content
      have valid : ¬Fails tolerant line := by
        rintro (⟨fault, refused | ⟨_, refused⟩⟩ | ⟨_, reason, rejected⟩)
        · cases tolerated.symm.trans refused
        · cases found.symm.trans refused
        · cases found.symm.trans rejected
      exact inspected_of_shows valid (.action shown isAction found)
        (runInspect_of_ok workspace content)
  | error refusal =>
      rw [found] at content
      cases refusal with
      | rejected reason =>
          exact inspected_of_invalid ⟨⟨record, tolerated⟩, reason, found⟩
            (runInspect_of_ok workspace content)
      | overlong fault =>
          refine inspected_of_overlong (fun other => ?_) (runInspect_of_error workspace content)
          simp [Overlong, tolerated, found, eq_comm]

theorem inspected_of_rejected (workspace : Workspace) {reason : Rejection}
    (rejected : ActionLine.read true line = .error (.rejected reason)) :
    Inspected tolerant line (runInspect workspace tolerant line) := by
  have valid : ¬Fails tolerant line := by
    rintro (⟨fault, refused | ⟨⟨record, found⟩, _⟩⟩ | ⟨⟨record, found⟩, _⟩)
    · cases rejected.symm.trans refused
    · cases rejected.symm.trans found
    · cases rejected.symm.trans found
  have told := LineKind.of_eq_of_rejected rejected
  cases marked : LineKind.marked? line with
  | none =>
      rw [marked] at told
      obtain ⟨command, split⟩ := CommandLine.exists_read?_of_unmarked marked
      have content : Line.read tolerant line = .ok (.command (some command)) := by
        rw [Line.read_of_unmarked rejected marked, split]
      exact inspected_of_shows valid (.command command told split)
        (runInspect_of_ok workspace content)
  | some kind =>
      rw [marked] at told
      obtain ⟨content, found, rfl, plain⟩ := Line.read_of_marked tolerant marked
      have reports := runInspect_of_ok workspace found
      rw [lineEntries_of_plain plain] at reports
      exact inspected_of_shows valid (.kind content.kind told marked) reports

/-- The way of an inspection is told by the tolerant reading, and by the one that is shown if that
finds an action. -/
theorem inspected_runInspect (workspace : Workspace) (tolerant : Bool) (line : Text) :
    Inspected tolerant line (runInspect workspace tolerant line) := by
  cases tolerated : ActionLine.read true line with
  | ok record => exact inspected_of_action workspace tolerated
  | error refusal =>
      cases refusal with
      | rejected reason => exact inspected_of_rejected workspace tolerated
      | overlong fault =>
          refine inspected_of_overlong (fun other => ?_)
            (runInspect_of_error workspace (Line.read_of_overlong tolerated))
          simp [Overlong, tolerated, eq_comm]

theorem Inspected.withLog {report : Report} (inspected : Inspected tolerant line report)
    (logs : Bool) : Inspected tolerant line (report.withLog logs) := by
  refine ⟨inspected.faults, inspected.fails, ?_, ?_⟩
  · rw [report.console_withLog]
    exact inspected.succeeds
  · rw [report.console_withLog]
    exact inspected.content

/-- A line is inspected with the tolerance of the settings, unless strict numbers are asked for.
The inspection ends with a fault or fails only for the reasons above, it always finds the content of
a command, and no line that it could be given to show asks for a list without its opener. -/
theorem inspected_of_asks {workspace : Workspace} {environment : Variables} {arguments : List Text}
    {settings : Settings} {strictFloats : Bool}
    (asked : Asks arguments (.inspect line strictFloats))
    (loaded : loadSettings workspace environment = .ok settings) :
    Inspected (settings.ignoreInvalidFloats && !strictFloats) line
        (run workspace environment arguments) ∧
      ∀ record : ActionLine, record.expandedText = .ok record.toText ∧
        expandedEntries record = .ok (actionEntries record) := by
  refine ⟨?_, fun record => ⟨record.expandedText_eq, expandedEntries_eq record⟩⟩
  rcases run_cases workspace environment arguments with
    ⟨_, _, _, _, unknown | ⟨_, problems, invalid⟩⟩ | ⟨parsed, _⟩ |
      ⟨others, task, logs, reloaded, again, shape⟩
  · exact absurd asked (unknown _)
  · cases loaded.symm.trans invalid
  · cases asked.unique (asks_of_parse?_help parsed)
  · cases loaded.symm.trans reloaded
    cases asked.unique again
    rw [shape]
    exact (inspected_runInspect ..).withLog logs

/-- A number that is none is shown, unless strict numbers are asked for; a frame count of too many
digits is a fault either way. -/
theorem inspected_of_asks_invalid :
    let arguments (line : Text) := ["line".toList, "inspect".toList, line]
    let strictly (line : Text) := arguments line ++ ["--strict-floats".toList]
    let number := "1F1.2.3".toList
    let digits := List.replicate 4301 '7'
    ((run ⟨[]⟩ [] (arguments number)).exitCode = 0 ∧
        Shows true number (run ⟨[]⟩ [] (arguments number)).console) ∧
      (run ⟨[]⟩ [] (strictly number)).exitCode = 1 ∧
      (run ⟨[]⟩ [] (strictly digits)).fault = some (.overlong ⟨4301⟩) := by
  intro arguments strictly number digits
  have loaded : loadSettings ⟨[]⟩ [] = .ok {} := rfl
  have asked : Asks (arguments number) (.inspect number false) := rfl
  have strict : Asks (strictly number) (.inspect number true) := rfl
  have overlong : Asks (strictly digits) (.inspect digits true) := rfl
  have shown : ActionLine.read true number = .ok ⟨1, ⟨512⟩, some "1.2.3".toList, none, ∅⟩ := by
    decide +kernel
  have rejected : ActionLine.read false number =
      .error (.rejected (.invalidAngle "1.2.3".toList)) := by
    decide +kernel
  have refused : Overlong false digits ⟨4301⟩ :=
    Or.inl (ActionLine.overlong_replicate (by decide) true)
  have valid : ¬Fails true number := by
    rintro (⟨fault, refused | ⟨_, refused⟩⟩ | ⟨_, reason, rejected⟩)
    · cases shown.symm.trans refused
    · cases shown.symm.trans refused
    · cases shown.symm.trans rejected
  refine ⟨(inspected_of_asks asked loaded).1.succeeds valid, ?_, ?_⟩
  · exact (inspected_of_asks strict loaded).1.fails.2 (.invalid ⟨⟨_, shown⟩, _, rejected⟩)
  · exact ((inspected_of_asks overlong loaded).1.faults _).2 ⟨_, rfl, refused⟩

end Cli

end FrameScript
