import FrameScript.Cli.Run
import FrameScript.Proofs.Script.Passes

/-!
# Runs on script files

What checking and formatting a script file report, and what they leave in the file.  A formatted
script is stored line by line and read as the same lines, so that a second run works on what the
first one wrote.
-/

namespace FrameScript.Cli

namespace Workspace

theorem read?_write (workspace : Workspace) (path : Path) (content : Bytes) :
    (workspace.write path content).read? path = (workspace.read? path).map fun _ => content := by
  obtain ⟨files⟩ := workspace
  rw [read?, read?, write]
  induction files with
  | nil => rfl
  | cons file rest ih =>
      obtain ⟨name, bytes⟩ := file
      rw [List.map_cons]
      by_cases same : path = name
      · subst same
        simp
      · have different : (path == name) = false := by simp [same]
        rw [List.lookup_cons, List.lookup_cons, different]
        exact ih

theorem write_write (workspace : Workspace) (path : Path) (first second : Bytes) :
    (workspace.write path first).write path second = workspace.write path second := by
  obtain ⟨files⟩ := workspace
  rw [write, write, write, List.map_map, mk.injEq]
  refine List.map_congr_left fun file _ => ?_
  by_cases same : file.1 = path
  · simp [same]
  · simp [same]

/-- A workspace with a single file. -/
def ofFile (path : Path) (text : Text) : Workspace := ⟨[(path, Text.Utf8.encode text)]⟩

end Workspace

variable {workspace : Workspace} {path : Path} {lines results : List Text} {tolerant : Bool}

theorem openScript_ok (opened : openScript workspace path = .ok lines) :
    ∃ bytes, workspace.read? path = some bytes ∧ Script.decode bytes = .ok lines := by
  rw [openScript] at opened
  split at opened
  · cases opened
  · rename_i bytes present
    split at opened
    · rename_i decoded
      cases opened
      exact ⟨bytes, present, decoded⟩
    · cases opened

theorem oneLine_of_openScript (opened : openScript workspace path = .ok lines) :
    ∀ text ∈ lines, Text.OneLine text := by
  obtain ⟨bytes, _, decoded⟩ := openScript_ok opened
  exact Script.oneLine_of_decode decoded

/-- What was written to a script file is what the next run opens. -/
theorem openScript_write (opened : openScript workspace path = .ok lines)
    (single : ∀ text ∈ results, Text.OneLine text) :
    openScript (workspace.write path (Script.encode results)) path = .ok results := by
  obtain ⟨bytes, present, _⟩ := openScript_ok opened
  simp only [openScript, Workspace.read?_write, present, Option.map_some,
    Script.decode_encode single]

/-- The message after a number of lines were changed in a file. -/
def formattedEntry (changed : Nat) (path : Path) : Entry :=
  .success s!"Formatted {changed} line(s) in {String.ofList path}"

theorem runFormat_of_format (opened : openScript workspace path = .ok lines)
    (formatted : Script.format tolerant lines = ⟨results, none⟩) (write : Bool) :
    (runFormat workspace tolerant path write).exitCode = 0 := by
  simp only [runFormat, opened, formatted]
  split <;> rfl

theorem runFormat_write_of_format (opened : openScript workspace path = .ok lines)
    (formatted : Script.format tolerant lines = ⟨results, none⟩) :
    (runFormat workspace tolerant path true).console =
        [formattedEntry (Script.changedCount lines results) path] ∧
      (runFormat workspace tolerant path true).workspace =
        workspace.write path (Script.encode results) := by
  simp only [runFormat, opened, formatted, if_pos, Report.console, Report.workspace,
    List.filterMap_append, filterMap_entry?_logged, List.foldl_append, foldl_apply_logged]
  exact ⟨rfl, rfl⟩

/-- A run that formats a script has gone through all of its lines. -/
theorem format_of_runFormat {write : Bool}
    (succeeded : (runFormat workspace tolerant path write).exitCode = 0) :
    ∃ lines results, openScript workspace path = .ok lines ∧
      Script.format tolerant lines = ⟨results, none⟩ := by
  cases opened : openScript workspace path with
  | error message =>
      simp only [runFormat, opened] at succeeded
      cases succeeded
  | ok lines =>
      cases formatted : Script.format tolerant lines with
      | mk results fault =>
          cases fault with
          | none => exact ⟨lines, results, rfl, formatted⟩
          | some fault =>
              simp only [runFormat, opened, formatted] at succeeded
              cases succeeded

/-- Formatting a script that is not changed by it reports no change and writes the file back. -/
theorem runFormat_of_fixed {before : Bytes}
    (opened : openScript (workspace.write path before) path = .ok lines)
    (stored : before = Script.encode lines)
    (fixed : Script.format tolerant lines = ⟨lines, none⟩) :
    (runFormat (workspace.write path before) tolerant path true).console =
        [formattedEntry 0 path] ∧
      (runFormat (workspace.write path before) tolerant path true).workspace =
        workspace.write path before := by
  obtain ⟨console, written⟩ := runFormat_write_of_format opened fixed
  rw [Script.changedCount_self] at console
  rw [Workspace.write_write, ← stored] at written
  exact ⟨console, written⟩

theorem entries_checkEvents (path : Path) {found : List (List Script.Finding)} {seen : List Text}
    (enough : found.length ≤ seen.length) :
    (checkEvents path seen found).filterMap Event.entry? = findingEntries path found := by
  unfold checkEvents findingEntries
  generalize 1 = number
  induction found generalizing seen number with
  | nil =>
      cases seen with
      | nil => rfl
      | cons line rest => simp [Event.entry?]
  | cons findings others ih =>
      cases seen with
      | nil => cases enough
      | cons line rest =>
          have later := ih (Nat.le_of_succ_le_succ enough) (number + 1)
          simp only [List.cons_append, List.zip_cons_cons, List.zipIdx_cons, List.flatMap_cons,
            List.filterMap_append, filterMap_entry?_logged, List.nil_append, later]
          simp [List.filterMap_map, Function.comp_def, Event.entry?]

theorem runCheck_of_check {found : List (List Script.Finding)}
    (opened : openScript workspace path = .ok lines)
    (checked : Script.check lines = ⟨found, none⟩)
    (noError : Script.errorCount found.flatten = 0) :
    (runCheck workspace path).exitCode = 0 ∧
      ∃ message, (runCheck workspace path).console =
        findingEntries path found ++ [.success message] := by
  have lengths : found.length = lines.length := by
    have same := Script.Progress.results_length (congrArg Script.Progress.fault checked)
    rwa [← Script.check, checked] at same
  have enough : found.length ≤ (lines.take (found.length + 1)).length := by
    rw [List.length_take]
    omega
  have entries := entries_checkEvents path enough
  simp only [runCheck, opened, checked, if_pos noError, Report.console, List.filterMap_append,
    Script.Progress.seen, entries, List.append_assoc]
  exact ⟨trivial, _, rfl⟩

/-- A run whose check passes has gone through all lines and found no error. -/
theorem check_of_runCheck (passed : (runCheck workspace path).exitCode = 0) :
    ∃ lines found, openScript workspace path = .ok lines ∧
      Script.check lines = ⟨found, none⟩ ∧ Script.errorCount found.flatten = 0 := by
  cases opened : openScript workspace path with
  | error message =>
      simp only [runCheck, opened] at passed
      cases passed
  | ok lines =>
      cases checked : Script.check lines with
      | mk found fault =>
          cases fault with
          | some fault =>
              simp only [runCheck, opened, checked] at passed
              cases passed
          | none =>
              refine ⟨lines, found, rfl, checked, ?_⟩
              by_cases noError : Script.errorCount found.flatten = 0
              · exact noError
              · simp only [runCheck, opened, checked, if_neg noError] at passed
                cases passed

/-- A report shows that a line of a script is not canonical. -/
def Report.ShowsNotCanonical (report : Report) (path : Path) : Prop :=
  ∃ number expected, findingEntry path number (.notCanonical expected) ∈ report.console

theorem mem_findingEntries {path : Path} {found : List (List Script.Finding)} {entry : Entry} :
    entry ∈ findingEntries path found ↔
      ∃ findings number, (findings, number) ∈ found.zipIdx 1 ∧
        ∃ finding ∈ findings, findingEntry path number finding = entry := by
  simp [findingEntries]

theorem notCanonical_notMem_of_not_shows {found : List (List Script.Finding)} {last : List Entry}
    {report : Report} (shown : report.console = findingEntries path found ++ last)
    (clean : ¬report.ShowsNotCanonical path) (expected : Text) :
    .notCanonical expected ∉ found.flatten := by
  intro member
  obtain ⟨findings, listed, inside⟩ := List.mem_flatten.1 member
  rw [← List.zipIdx_map_fst 1 found] at listed
  obtain ⟨⟨same, number⟩, numbered, rfl⟩ := List.mem_map.1 listed
  refine clean ⟨number, expected, ?_⟩
  rw [shown]
  exact List.mem_append_left _
    (mem_findingEntries.2 ⟨same, number, numbered, _, inside, rfl⟩)

theorem dropWhile_number (number : Nat) (rest : Text) :
    (Nat.toDigits 10 number ++ ':' :: rest).dropWhile Char.isDigit = ':' :: rest := by
  have digits : ∀ digit ∈ Nat.toDigits 10 number, digit.isDigit = true :=
    fun digit => Text.isDigit_of_mem_ofNat
  rw [List.dropWhile_append_of_pos digits]
  rfl

/-- The two warnings of a check cannot be taken for each other. -/
theorem findingEntry_wideCount_ne (path : Path) (number other : Nat) (frames : Int)
    (expected : Text) :
    findingEntry path number (.wideCount frames) ≠
      findingEntry path other (.notCanonical expected) := by
  intro same
  injection same with texts
  have chars := congrArg String.toList texts
  change ("[bold yellow]Warning:[/bold yellow] " ++ (String.ofList path ++ ":" ++ number.repr ++
      ": frame count " ++ String.ofList (Text.ofInt frames) ++ " exceeds " ++
      ActionLine.maxFrames.repr)).toList =
    ("[bold yellow]Warning:[/bold yellow] " ++ (String.ofList path ++ ":" ++ other.repr ++
      ": not canonical, expected " ++ Markup.quotation expected)).toList at chars
  simp only [String.toList_append, String.toList_ofList, Nat.toList_repr, List.append_assoc,
    List.append_cancel_left_eq] at chars
  have rest := congrArg (List.dropWhile Char.isDigit) chars
  simp [dropWhile_number] at rest

theorem success_ne_warning (message other : String) :
    Entry.success message ≠ Entry.warning other := by
  intro same
  injection same with texts
  have chars := congrArg String.toList texts
  change ("[bold green]" ++ message ++ "[/bold green]").toList =
    ("[bold yellow]Warning:[/bold yellow] " ++ other).toList at chars
  simp at chars

theorem not_shows_of_wideCount {found : List (List Script.Finding)} {message : String}
    {report : Report} (shown : report.console = findingEntries path found ++ [.success message])
    (wide : ∀ findings ∈ found, ∀ finding ∈ findings, ∃ frames, finding = .wideCount frames) :
    ¬report.ShowsNotCanonical path := by
  rintro ⟨other, expected, member⟩
  rw [shown, List.mem_append, mem_findingEntries, List.mem_singleton] at member
  rcases member with ⟨findings, number, numbered, finding, inside, same⟩ | last
  · have listed : findings ∈ found := by
      rw [← List.zipIdx_map_fst 1 found]
      exact List.mem_map.2 ⟨(findings, number), numbered, rfl⟩
    obtain ⟨frames, rfl⟩ := wide findings listed finding inside
    exact findingEntry_wideCount_ne path number other frames expected same
  · exact success_ne_warning _ _ last.symm

/-! ## Settled files -/

/-- A file that every pass leaves alone. -/
theorem runCheck_of_settled (opened : openScript workspace path = .ok lines)
    (settled : ∀ text ∈ lines, Script.Settled text) :
    (runCheck workspace path).exitCode = 0 ∧
      ¬(runCheck workspace path).ShowsNotCanonical path := by
  obtain ⟨found, checked, wide⟩ := Script.check_of_settled settled
  have noError : Script.errorCount found.flatten = 0 := by
    rw [Script.errorCount, List.countP_eq_zero]
    intro finding member
    obtain ⟨findings, listed, inside⟩ := List.mem_flatten.1 member
    obtain ⟨frames, rfl⟩ := wide findings listed finding inside
    exact Bool.false_ne_true
  obtain ⟨passed, message, shown⟩ := runCheck_of_check opened checked noError
  exact ⟨passed, not_shows_of_wideCount shown wide⟩

/-- The records that formatting a script file writes. -/
def Serializes (workspace : Workspace) (tolerant : Bool) (path : Path) (line : ActionLine) : Prop :=
  ∃ lines, openScript workspace path = .ok lines ∧
    ∃ text ∈ lines, Script.Serializes tolerant text line

theorem serializes_of_mem (opened : openScript workspace path = .ok lines) {text : Text}
    (member : text ∈ lines) {line : ActionLine}
    (serialized : Script.Serializes tolerant text line) :
    Serializes workspace tolerant path line :=
  ⟨lines, opened, text, member, serialized⟩

/-- If a check passes and shows no text that is not canonical, formatting changes no line, with
either tolerance. -/
theorem format_of_clean_check (workspace : Workspace) (path : Path)
    (passed : (runCheck workspace path).exitCode = 0)
    (clean : ¬(runCheck workspace path).ShowsNotCanonical path) (tolerant : Bool) :
    ∃ lines, openScript workspace path = .ok lines ∧
      Script.format tolerant lines = ⟨lines, none⟩ ∧
      Script.changedCount lines (Script.format tolerant lines).results = 0 ∧
      (∀ write, (runFormat workspace tolerant path write).exitCode = 0) ∧
      (runFormat workspace tolerant path true).console = [formattedEntry 0 path] := by
  obtain ⟨lines, found, opened, checked, noError⟩ := check_of_runCheck passed
  obtain ⟨_, message, shown⟩ := runCheck_of_check opened checked noError
  have settled := Script.settled_of_check checked noError
    (notCanonical_notMem_of_not_shows shown clean)
  have fixed := Script.format_of_settled settled tolerant
  refine ⟨lines, opened, fixed, ?_, runFormat_of_format opened fixed, ?_⟩
  · rw [fixed, Script.changedCount_self]
  · rw [(runFormat_write_of_format opened fixed).1, Script.changedCount_self]

theorem format_of_clean_check_action :
    let workspace := Workspace.ofFile "a.tas".toList "   1,R\n".toList
    Script.format false ["   1,R".toList] = ⟨["   1,R".toList], none⟩ ∧
      (runFormat workspace false "a.tas".toList true).console =
        [formattedEntry 0 "a.tas".toList] := by
  have opened : openScript (.ofFile "a.tas".toList "   1,R\n".toList) "a.tas".toList =
      .ok ["   1,R".toList] := by
    decide +kernel
  have settled : ∀ text ∈ ["   1,R".toList], Script.Settled text := by
    intro text member
    rw [List.mem_singleton.1 member]
    refine .action ((ActionLine.mk 1 ∅ none none ∅).hold (.tag (.direction .right)))
      (by decide +kernel) fun tolerant => ?_
    cases tolerant <;> decide +kernel
  obtain ⟨passed, clean⟩ := runCheck_of_settled opened settled
  obtain ⟨lines, sameFile, fixed, _, _, shown⟩ := format_of_clean_check _ _ passed clean false
  rw [opened] at sameFile
  cases sameFile
  exact ⟨fixed, shown⟩

/-- If a check passes and no record that formatting writes has a blank among its keys, then the
formatted file passes a check that shows no text that is not canonical, formatting it again with
either tolerance changes nothing, and every written record is read back from its text with either
tolerance.  The text of a feather without a number is read leniently if invalid numbers are
rejected. -/
theorem check_of_formatted (workspace : Workspace) (path : Path) (tolerant : Bool)
    (passed : (runCheck workspace path).exitCode = 0)
    (visible : ∀ line, Serializes workspace tolerant path line → line.keys.Visible) :
    let first := runFormat workspace tolerant path true
    let after := first.workspace
    first.exitCode = 0 ∧
      (runCheck after path).exitCode = 0 ∧
      ¬(runCheck after path).ShowsNotCanonical path ∧
      (∀ again, (runFormat after again path true).exitCode = 0 ∧
        (runFormat after again path true).console = [formattedEntry 0 path] ∧
        (runFormat after again path true).workspace = after) ∧
      ∀ line, Serializes workspace tolerant path line →
        ActionLine.read false line.toText = .ok line ∧
        ActionLine.read true line.toText = .ok line ∧
        (line.Bare →
          Delimited.read false line.toText = .error (.rejected (.invalidAngle [])) ∧
          Lenient.read false line.toText = .ok line) := by
  obtain ⟨lines, found, opened, checked, noError⟩ := check_of_runCheck passed
  obtain ⟨results, formatted, settled⟩ := Script.settled_format_of_check checked noError
    fun text member line serialized => visible line (serializes_of_mem opened member serialized)
  have stored := (runFormat_write_of_format opened formatted).2
  have reopened := openScript_write opened
    (Script.oneLine_format formatted (oneLine_of_openScript opened))
  dsimp only
  rw [stored]
  obtain ⟨clean, canonical⟩ := runCheck_of_settled reopened settled
  refine ⟨runFormat_of_format opened formatted true, clean, canonical, fun again => ?_, ?_⟩
  · have fixed := Script.format_of_settled settled again
    exact ⟨runFormat_of_format reopened fixed true, runFormat_of_fixed reopened rfl fixed⟩
  · rintro line ⟨others, sameFile, text, member, serialized⟩
    have keys := visible line ⟨others, sameFile, text, member, serialized⟩
    rw [opened] at sameFile
    cases sameFile
    obtain ⟨findings, listed, done⟩ := Script.Progress.exists_of_mem_lines checked member
    have inRange := Script.inRange_of_checkLine done
      (Script.isError_of_errorCount noError listed) serialized
    obtain ⟨⟨source, _, parsed⟩, _⟩ := ActionLine.parsed_of_read serialized.2
    obtain ⟨read, bare⟩ := parsed.read_toText_of_visible inRange keys
    exact ⟨read false, read true, bare⟩

theorem check_of_formatted_bareFeather :
    let workspace := Workspace.ofFile "a.tas".toList "1F\n# x\n".toList
    let after := (runFormat workspace true "a.tas".toList true).workspace
    (runCheck after "a.tas".toList).exitCode = 0 ∧
      (runFormat after false "a.tas".toList true).workspace = after := by
  have opened : openScript (.ofFile "a.tas".toList "1F\n# x\n".toList) "a.tas".toList =
      .ok ["1F".toList, "# x".toList] := by
    decide +kernel
  have read : ActionLine.read true "1F".toList =
      .ok ((ActionLine.mk 1 ∅ none none ∅).hold (.tag .feather)) := by
    decide +kernel
  have visible : ∀ line,
      Serializes (.ofFile "a.tas".toList "1F\n# x\n".toList) true "a.tas".toList line →
        line.keys.Visible := by
    rintro line ⟨lines, sameFile, text, member, serialized⟩
    rw [opened] at sameFile
    cases sameFile
    rcases List.mem_cons.1 member with rfl | later
    · cases read.symm.trans serialized.2
      exact fun char held => absurd held (KeySet.not_mem_empty [char])
    · rw [List.mem_singleton.1 later] at serialized
      exact absurd serialized.1 (by decide +kernel)
  obtain ⟨_, passed, _, again, _⟩ := check_of_formatted
    (.ofFile "a.tas".toList "1F\n# x\n".toList) "a.tas".toList true (by decide +kernel) visible
  exact ⟨passed, (again false).2.2⟩

/-- A file that was formatted can be formatted again with the same tolerance.  That reports no
change and leaves the file alone exactly when every record that was written is stable. -/
theorem format_of_formatted (workspace : Workspace) (path : Path) (tolerant : Bool)
    (succeeded : (runFormat workspace tolerant path true).exitCode = 0) :
    let after := (runFormat workspace tolerant path true).workspace
    let second := runFormat after tolerant path true
    second.exitCode = 0 ∧
      (second.console = [formattedEntry 0 path] ∧ second.workspace = after ↔
        ∀ line, Serializes workspace tolerant path line → line.Stable tolerant) := by
  obtain ⟨lines, results, opened, formatted⟩ := format_of_runFormat succeeded
  obtain ⟨again, reformatted, same⟩ := Script.format_again formatted
  have single := Script.oneLine_format formatted (oneLine_of_openScript opened)
  have reopened := openScript_write opened single
  dsimp only
  rw [(runFormat_write_of_format opened formatted).2]
  refine ⟨runFormat_of_format reopened reformatted true, ?_⟩
  have stable : (∀ line, Serializes workspace tolerant path line → line.Stable tolerant) ↔
      again = results := by
    rw [same]
    constructor
    · intro each text member line serialized
      exact each line (serializes_of_mem opened member serialized)
    · rintro each line ⟨others, sameFile, text, member, serialized⟩
      rw [opened] at sameFile
      cases sameFile
      exact each text member line serialized
  rw [stable]
  constructor
  · rintro ⟨_, unchanged⟩
    rw [(runFormat_write_of_format reopened reformatted).2, Workspace.write_write] at unchanged
    have secondOpened := openScript_write opened (Script.oneLine_format reformatted single)
    rw [unchanged, reopened] at secondOpened
    exact (Except.ok.inj secondOpened).symm
  · rintro rfl
    exact runFormat_of_fixed reopened rfl reformatted

/-- A number that is none is kept by the first run and lost by the second. -/
theorem format_of_formatted_invalidNumber :
    let workspace := Workspace.ofFile "a.tas".toList "1F1.2.3\n".toList
    let after := (runFormat workspace true "a.tas".toList true).workspace
    let second := runFormat after true "a.tas".toList true
    second.exitCode = 0 ∧
      ¬(second.console = [formattedEntry 0 "a.tas".toList] ∧ second.workspace = after) := by
  obtain ⟨succeeded, same⟩ := format_of_formatted
    (.ofFile "a.tas".toList "1F1.2.3\n".toList) "a.tas".toList true (by decide +kernel)
  refine ⟨succeeded, fun unchanged => ?_⟩
  have serialized : Serializes (.ofFile "a.tas".toList "1F1.2.3\n".toList) true "a.tas".toList
      ((ActionLine.mk 1 ∅ (some "1.2.3".toList) none ∅).hold (.tag .feather)) :=
    ⟨["1F1.2.3".toList], by decide +kernel, _, List.mem_singleton.2 rfl, by decide +kernel,
      by decide +kernel⟩
  have number := (same.1 unchanged _ serialized).numeric "1.2.3".toList (Or.inl rfl)
  exact absurd (number (by decide)) (by decide +kernel)

end FrameScript.Cli
