import FrameScript.Proofs.Cli.Scripts
import FrameScript.Proofs.Script.Comments
import FrameScript.Proofs.Text.ControlSequences

/-!
# Output of formatting

Formatting a script file gives one line for each line of the script.  What is written back is read
as these lines.  What is printed has their control sequences left out, so that it is the text of the
file exactly when there are none.
-/

namespace FrameScript

open Text (withoutSequences HasSequence)

namespace Script

/-- What takes the place of a line: the canonical text of the action that is read from it, or else
the line itself. -/
structure FormatsAs (tolerant : Bool) (text after : Text) : Prop where
  action : ∀ line, Serializes tolerant text line → after = line.toText
  other : (∀ line, ¬Serializes tolerant text line) → after = text

theorem formatsAs_of_formatLine {tolerant : Bool} {text after : Text}
    (done : formatLine tolerant text = .ok after) : FormatsAs tolerant text after := by
  rcases formatLine_cases done with ⟨line, serialized, rfl⟩ | ⟨rfl, none⟩
  · refine ⟨fun other also => ?_, fun none => absurd serialized (none line)⟩
    cases serialized.2.symm.trans also.2
    rfl
  · exact ⟨fun line serialized => absurd serialized (none line), fun _ => rfl⟩

/-- The number of places at which a list of lines differs from another one. -/
def differences (lines others : List Text) : Nat :=
  (List.range lines.length).countP fun index => lines[index]? != others[index]?

theorem changedCount_eq_differences {lines results : List Text}
    (same : results.length = lines.length) :
    changedCount lines results = differences lines results := by
  induction lines generalizing results with
  | nil =>
      rw [List.length_eq_zero_iff.1 same]
      rfl
  | cons line rest ih =>
      cases results with
      | nil => cases same
      | cons after others =>
          have later := ih (Nat.succ.inj same)
          rw [changedCount, differences] at later ⊢
          rw [List.zip_cons_cons, List.countP_cons, later, List.length_cons,
            List.range_succ_eq_map, List.countP_cons, List.countP_map]
          simp [Function.comp_def, bne_comm]

end Script

namespace Cli

variable {workspace : Workspace} {path : Path} {lines results : List Text} {tolerant : Bool}

theorem runFormat_print_of_format (opened : openScript workspace path = .ok lines)
    (formatted : Script.format tolerant lines = ⟨results, none⟩) :
    (runFormat workspace tolerant path false).console = [] ∧
      (runFormat workspace tolerant path false).output =
        Text.ofLines (results.map withoutSequences) ∧
      (runFormat workspace tolerant path false).workspace = workspace := by
  simp only [runFormat, opened, formatted, if_neg Bool.false_ne_true, Report.console, Report.output,
    Report.workspace, List.filterMap_append, filterMap_entry?_logged, List.flatMap_append,
    flatMap_text_logged, List.flatMap_singleton, List.foldl_append, foldl_apply_logged,
    ← Text.withoutSequences_ofLines]
  exact ⟨rfl, rfl, rfl⟩

/-- Lines are printed as they are exactly when none of them has a control sequence. -/
theorem ofLines_withoutSequences_eq_iff (single : ∀ line ∈ results, Text.OneLine line) :
    Text.ofLines (results.map withoutSequences) = Text.ofLines results ↔
      ∀ line ∈ results, ¬HasSequence line := by
  constructor
  · intro same line member
    have read : results.map withoutSequences = results.map id := by
      rw [List.map_id, ← Text.lines_ofLines (Text.oneLine_map Text.withoutSequences_sublist single),
        same, Text.lines_ofLines single]
    exact Text.withoutSequences_eq_self_iff.1 (List.map_inj_left.1 read line member)
  · intro plain
    have whole : results.map withoutSequences = results.map id :=
      List.map_congr_left fun line member => Text.withoutSequences_eq_self_iff.2 (plain line member)
    rw [whole, List.map_id]

/-- If a script file is formatted, then every line of it has one line in the result: the canonical
text of the action that is read from it, or the line itself.  Writing stores these lines, they are
read from the file afterwards, and the message counts the places at which they differ from the lines
before.  Printing leaves the file alone and prints the same text exactly when none of the lines has
a control sequence. -/
theorem format_writes_and_prints (workspace : Workspace) (tolerant : Bool) (path : Path)
    (write : Bool) (succeeded : (runFormat workspace tolerant path write).exitCode = 0) :
    let written := runFormat workspace tolerant path true
    let printed := runFormat workspace tolerant path false
    ∃ lines results, openScript workspace path = .ok lines ∧ results.length = lines.length ∧
      (∀ (index : Nat) (text after : Text), lines[index]? = some text →
        results[index]? = some after → Script.FormatsAs tolerant text after) ∧
      (written.exitCode = 0 ∧
        written.workspace = workspace.write path (Text.Utf8.encode (Text.ofLines results)) ∧
        openScript written.workspace path = .ok results ∧
        written.console = [formattedEntry (Script.differences lines results) path]) ∧
      (printed.exitCode = 0 ∧ printed.workspace = workspace ∧ printed.console = [] ∧
        Script.decode (Text.Utf8.encode printed.output) = .ok (results.map withoutSequences)) ∧
      (printed.output = Text.ofLines results ↔ ∀ after ∈ results, ¬HasSequence after) := by
  obtain ⟨lines, results, opened, formatted⟩ := format_of_runFormat succeeded
  have lengths := Script.length_format formatted
  have single := Script.oneLine_format formatted (oneLine_of_openScript opened)
  obtain ⟨shown, stored⟩ := runFormat_write_of_format opened formatted
  obtain ⟨silent, output, kept⟩ := runFormat_print_of_format opened formatted
  refine ⟨lines, results, opened, lengths, ?_, ⟨runFormat_of_format opened formatted true, stored,
    ?_, ?_⟩, ⟨runFormat_of_format opened formatted false, kept, silent, ?_⟩, ?_⟩
  · intro index text after before behind
    obtain ⟨result, found, done⟩ := Script.Progress.getElem?_through formatted before
    cases behind.symm.trans found
    exact Script.formatsAs_of_formatLine done
  · rw [stored]
    exact openScript_write opened single
  · rw [shown, Script.changedCount_eq_differences lengths]
  · rw [output]
    exact Script.decode_encode (Text.oneLine_map Text.withoutSequences_sublist single)
  · rw [output]
    exact ofLines_withoutSequences_eq_iff single

/-- A colour in a comment is written, but not printed. -/
theorem format_writes_and_prints_colour :
    let workspace := Workspace.ofFile "a.tas".toList "1r\n# \x1b[31mred".toList
    let results := ["   1,R".toList, "# \x1b[31mred".toList]
    let written := runFormat workspace true "a.tas".toList true
    openScript written.workspace "a.tas".toList = .ok results ∧
      written.console = [formattedEntry 1 "a.tas".toList] ∧
      (runFormat workspace true "a.tas".toList false).output ≠ Text.ofLines results := by
  obtain ⟨lines, results, opened, _, _, ⟨_, _, stored, shown⟩, _, same⟩ :=
    format_writes_and_prints (.ofFile "a.tas".toList "1r\n# \x1b[31mred".toList) true
      "a.tas".toList true (by decide +kernel)
  obtain rfl : lines = ["1r".toList, "# \x1b[31mred".toList] := by
    refine Except.ok.inj (opened.symm.trans ?_)
    decide +kernel
  obtain rfl : results = ["   1,R".toList, "# \x1b[31mred".toList] := by
    refine Except.ok.inj (stored.symm.trans ?_)
    decide +kernel
  refine ⟨stored, shown, fun printed => same.1 printed "# \x1b[31mred".toList (by simp) ?_⟩
  exact ⟨"# ".toList, "\x1b[31m".toList, "red".toList,
    ⟨"31".toList, 'm', List.all_eq_true.1 rfl, rfl, rfl⟩, rfl⟩

/-- Formatting a file succeeds with a text that is written or printed. -/
def FormatsTo (workspace : Workspace) (tolerant : Bool) (path : Path) (write : Bool)
    (output : Text) : Prop :=
  let report := runFormat workspace tolerant path write
  report.exitCode = 0 ∧
    if write then report.workspace.read? path = some (Text.Utf8.encode output)
    else report.output = output

/-- Formatting a file that is printed without control sequences, or written as it is. -/
theorem formatsTo_of_format (opened : openScript workspace path = .ok lines)
    (formatted : Script.format tolerant lines = ⟨results, none⟩) :
    FormatsTo workspace tolerant path true (Text.ofLines results) ∧
      FormatsTo workspace tolerant path false (Text.ofLines (results.map withoutSequences)) := by
  obtain ⟨bytes, present, _⟩ := openScript_ok opened
  refine ⟨⟨runFormat_of_format opened formatted true, ?_⟩,
    ⟨runFormat_of_format opened formatted false, ?_⟩⟩
  · rw [if_pos rfl, (runFormat_write_of_format opened formatted).2, Workspace.read?_write, present]
    rfl
  · rw [if_neg Bool.false_ne_true, (runFormat_print_of_format opened formatted).2.1]

/-- Formatting a file keeps its lines apart and its comments exactly when nothing but newlines
divides it, apart from its end if no comment stands there, and when the comments that are printed
have no control sequence. -/
theorem format_keepsComments_iff (workspace : Workspace) (tolerant : Bool) (path : Path)
    (write : Bool) (bytes : Bytes) (text : Text) (stored : workspace.read? path = some bytes)
    (decoded : Text.Utf8.decode bytes = .ok text)
    (succeeded : (runFormat workspace tolerant path write).exitCode = 0) :
    ∃ output, FormatsTo workspace tolerant path write output ∧
      (Script.KeepsComments text output ↔
        Script.Undivided text ∧
          (write = false → ∀ line ∈ Text.fileLines text, Script.IsComment line →
            ¬HasSequence line)) := by
  obtain ⟨lines, results, opened, formatted⟩ := format_of_runFormat succeeded
  obtain ⟨written, printed⟩ := formatsTo_of_format opened formatted
  obtain rfl : lines = Text.lines (Text.normalizeNewlines text) := by
    simpa [openScript, stored, Script.decode, decoded, Except.map] using opened.symm
  cases write with
  | true =>
      refine ⟨_, written, ?_⟩
      have kept := Script.keepsComments_iff id List.Sublist.refl formatted
      rw [List.map_id] at kept
      simpa using kept
  | false =>
      refine ⟨_, printed, ?_⟩
      rw [Script.keepsComments_iff _ Text.withoutSequences_sublist formatted]
      simp only [Text.withoutSequences_eq_self_iff, forall_const]

/-- A vertical tab divides a comment, and what follows it becomes an action. -/
theorem format_keepsComments_iff_verticalTab :
    let workspace := Workspace.ofFile "a.tas".toList "# a\x0b1r\n".toList
    (runFormat workspace true "a.tas".toList true).workspace =
        .ofFile "a.tas".toList "# a\n   1,R\n".toList ∧
      ∃ output, FormatsTo workspace true "a.tas".toList true output ∧
        ¬Script.KeepsComments "# a\x0b1r\n".toList output := by
  obtain ⟨output, written, kept⟩ := format_keepsComments_iff
    (.ofFile "a.tas".toList "# a\x0b1r\n".toList) true "a.tas".toList true
    (Text.Utf8.encode "# a\x0b1r\n".toList) "# a\x0b1r\n".toList (by decide +kernel)
    (Text.Utf8.decode_encode _) (by decide +kernel)
  refine ⟨by decide +kernel, output, written, fun keeps => ?_⟩
  have whole := (kept.1 keeps).1.inside '\x0b' (by decide +kernel)
  cases whole

end Cli

end FrameScript
