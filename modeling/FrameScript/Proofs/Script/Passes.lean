import FrameScript.Proofs.ActionLine.Tolerance
import FrameScript.Proofs.Line.Kinds
import FrameScript.Proofs.Script.Storage
import FrameScript.Script.Check
import FrameScript.Script.Format

/-!
# Passes over a script

What checking and formatting do to one line, and from that what they do to a script.  A line is
settled if no pass has anything to say about it any more: it is no action, or it is the canonical
text of the action that is read from it with either tolerance.
-/

namespace FrameScript.Script

open ActionLine (Stable)

namespace Progress

variable {α : Type} {work : Text → Except OverlongCount α} {lines : List Text} {results : List α}

/-- Work that was finished gave one result for each line. -/
theorem through_eq_iff :
    Progress.through work lines = ⟨results, none⟩ ↔ lines.map work = results.map .ok := by
  induction lines generalizing results with
  | nil => cases results <;> simp [Progress.through]
  | cons line rest ih =>
      rw [Progress.through]
      cases done : work line with
      | error fault => cases results <;> simp [done]
      | ok result =>
          cases results with
          | nil => simp
          | cons first others =>
              rw [List.map_cons, List.map_cons, done, List.cons.injEq, Except.ok.injEq, ← ih]
              cases Progress.through work rest
              simp [and_assoc]

theorem exists_of_mem_results (finished : Progress.through work lines = ⟨results, none⟩)
    {result : α} (member : result ∈ results) : ∃ line ∈ lines, work line = .ok result := by
  have listed : Except.ok result ∈ lines.map work := by
    rw [through_eq_iff.1 finished]
    exact List.mem_map.2 ⟨result, member, rfl⟩
  exact List.mem_map.1 listed

theorem exists_of_mem_lines (finished : Progress.through work lines = ⟨results, none⟩) {line : Text}
    (member : line ∈ lines) : ∃ result ∈ results, work line = .ok result := by
  have listed : work line ∈ results.map .ok := by
    rw [← through_eq_iff.1 finished]
    exact List.mem_map.2 ⟨line, member, rfl⟩
  obtain ⟨result, inResults, same⟩ := List.mem_map.1 listed
  exact ⟨result, inResults, same.symm⟩

/-- Work that can be done on every line is finished. -/
theorem through_of_forall {Holds : α → Prop}
    (each : ∀ line ∈ lines, ∃ result, work line = .ok result ∧ Holds result) :
    ∃ results, Progress.through work lines = ⟨results, none⟩ ∧
      ∀ result ∈ results, Holds result := by
  induction lines with
  | nil => exact ⟨[], rfl, by simp⟩
  | cons line rest ih =>
      obtain ⟨result, done, holds⟩ := each line (by simp)
      obtain ⟨results, finished, later⟩ := ih fun other member => each other (by simp [member])
      refine ⟨result :: results, ?_, ?_⟩
      · simp only [Progress.through, done, finished]
      · intro other member
        rcases List.mem_cons.1 member with rfl | inRest
        · exact holds
        · exact later other inRest

theorem through_of_fixed {work : Text → Except OverlongCount Text}
    (fixed : ∀ line ∈ lines, work line = .ok line) :
    Progress.through work lines = ⟨lines, none⟩ :=
  through_eq_iff.2 (List.map_congr_left fixed)

end Progress

/-- Formatting a line writes the canonical text of an action. -/
def Serializes (tolerant : Bool) (text : Text) (line : ActionLine) : Prop :=
  LineKind.of text = .ok .action ∧ ActionLine.read tolerant text = .ok line

variable {tolerant : Bool} {text after : Text} {line : ActionLine}

theorem formatLine_of_serializes (serialized : Serializes tolerant text line) :
    formatLine tolerant text = .ok line.toText := by
  rw [formatLine, serialized.1, serialized.2]
  rfl

theorem formatLine_of_kind {kind : LineKind} (isKind : LineKind.of text = .ok kind)
    (different : kind ≠ .action) : formatLine tolerant text = .ok text := by
  rw [formatLine, isKind]
  cases kind with
  | action => exact absurd rfl different
  | empty => rfl
  | comment => rfl
  | breakpoint => rfl
  | command => rfl

/-- Formatting a line writes the text of an action, or leaves the line as it is. -/
theorem formatLine_cases (done : formatLine tolerant text = .ok after) :
    (∃ line, Serializes tolerant text line ∧ after = line.toText) ∨
      after = text ∧ ∀ line, ¬Serializes tolerant text line := by
  cases isKind : LineKind.of text with
  | error fault =>
      rw [formatLine, isKind] at done
      cases done
  | ok kind =>
      by_cases action : kind = .action
      · subst action
        cases read : ActionLine.read tolerant text with
        | ok line =>
            rw [formatLine_of_serializes ⟨isKind, read⟩] at done
            cases done
            exact Or.inl ⟨line, ⟨isKind, read⟩, rfl⟩
        | error refusal =>
            rw [formatLine, isKind, read] at done
            cases refusal with
            | rejected reason =>
                cases done
                refine Or.inr ⟨rfl, fun line serialized => ?_⟩
                cases read.symm.trans serialized.2
            | overlong fault => cases done
      · rw [formatLine_of_kind isKind action] at done
        cases done
        refine Or.inr ⟨rfl, fun line serialized => ?_⟩
        cases isKind.symm.trans serialized.1
        exact action rfl

theorem checkLine_of_serializes (serialized : Serializes false text line) :
    checkLine text = .ok (findings text line) := by
  rw [checkLine, serialized.1, serialized.2]
  rfl

theorem checkLine_of_kind {kind : LineKind} (isKind : LineKind.of text = .ok kind)
    (different : kind ≠ .action) : checkLine text = .ok [] := by
  rw [checkLine, isKind]
  cases kind with
  | action => exact absurd rfl different
  | empty => rfl
  | comment => rfl
  | breakpoint => rfl
  | command => rfl

/-- A line without an error is no action, or an action whose numbers are valid. -/
theorem checkLine_cases {found : List Finding} (done : checkLine text = .ok found)
    (noError : ∀ finding ∈ found, finding.isError = false) :
    (∃ kind, LineKind.of text = .ok kind ∧ kind ≠ .action) ∨
      ∃ line, Serializes false text line ∧ found = findings text line := by
  cases isKind : LineKind.of text with
  | error fault =>
      rw [checkLine, isKind] at done
      cases done
  | ok kind =>
      by_cases action : kind = .action
      · subst action
        cases read : ActionLine.read false text with
        | ok line =>
            rw [checkLine_of_serializes ⟨isKind, read⟩] at done
            cases done
            exact Or.inr ⟨line, ⟨isKind, read⟩, rfl⟩
        | error refusal =>
            rw [checkLine, isKind, read] at done
            cases refusal with
            | rejected reason =>
                cases done
                cases noError (.invalidNumber (Text.trim text)) (by simp)
            | overlong fault => cases done
      · exact Or.inl ⟨kind, rfl, action⟩

/-! ## Settled lines -/

/-- A line that every pass leaves alone. -/
inductive Settled (text : Text) : Prop where
  | other (kind : LineKind) (isKind : LineKind.of text = .ok kind) (different : kind ≠ .action)
  | action (line : ActionLine) (canonical : line.toText = text)
      (read : ∀ tolerant, ActionLine.read tolerant text = .ok line)

theorem Settled.formatLine (settled : Settled text) (tolerant : Bool) :
    formatLine tolerant text = .ok text := by
  cases settled with
  | other kind isKind different => exact formatLine_of_kind isKind different
  | action line canonical read =>
      have action := LineKind.of_eq_action_iff.2 ⟨line, read true⟩
      rw [formatLine_of_serializes ⟨action, read tolerant⟩, canonical]

/-- All that a check can find on a settled line is a frame count wider than its column. -/
theorem Settled.checkLine (settled : Settled text) :
    ∃ found, checkLine text = .ok found ∧
      ∀ finding ∈ found, ∃ frames, finding = .wideCount frames := by
  cases settled with
  | other kind isKind different => exact ⟨[], checkLine_of_kind isKind different, by simp⟩
  | action line canonical read =>
      have action := LineKind.of_eq_action_iff.2 ⟨line, read true⟩
      refine ⟨_, checkLine_of_serializes ⟨action, read false⟩, fun finding member => ?_⟩
      rw [findings, if_pos canonical, List.append_nil] at member
      split at member
      · exact ⟨line.frames, List.mem_singleton.1 member⟩
      · cases member

/-- A stable action whose numbers are in range has a settled text. -/
theorem settled_toText {source : Text} (parsed : line.Parsed source) (inRange : line.InRange)
    (stable : ∀ tolerant, line.Stable tolerant) : Settled line.toText := by
  refine .action line rfl fun tolerant => ?_
  rw [ActionLine.read_toText parsed (Or.inr inRange), parsed.reread_eq_iff.2 (stable tolerant)]

/-- A line on which a check finds neither an error nor a text that is not canonical is settled. -/
theorem settled_of_checkLine {found : List Finding} (done : checkLine text = .ok found)
    (noError : ∀ finding ∈ found, finding.isError = false)
    (canonical : ∀ expected, .notCanonical expected ∉ found) : Settled text := by
  rcases checkLine_cases done noError with ⟨kind, isKind, different⟩ | ⟨line, serialized, rfl⟩
  · exact .other kind isKind different
  · have same : line.toText = text := by
      by_cases same : line.toText = text
      · exact same
      · exact absurd (by simp [findings, same]) (canonical line.toText)
    have read := serialized.2
    obtain ⟨⟨source, _, parsed⟩, valid⟩ := ActionLine.parsed_of_read read
    have inRange := valid rfl
    have strict : line.Stable false := by
      rw [← parsed.reread_eq_iff]
      rw [← same, ActionLine.read_toText parsed (Or.inr inRange)] at read
      exact Except.ok.inj read
    rw [← same]
    refine settled_toText parsed inRange fun tolerant => ?_
    exact ⟨strict.numeric, strict.ends, fun _ => strict.visible rfl⟩

/-- What formatting writes for a line without errors has its numbers in range. -/
theorem inRange_of_checkLine {found : List Finding} (done : checkLine text = .ok found)
    (noError : ∀ finding ∈ found, finding.isError = false)
    (serialized : Serializes tolerant text line) : line.InRange := by
  rcases checkLine_cases done noError with ⟨kind, isKind, different⟩ | ⟨checked, valid, _⟩
  · rw [serialized.1] at isKind
    cases isKind
    exact absurd rfl different
  · exact ActionLine.inRange_of_read serialized.2 ⟨checked, valid.2⟩

/-- Formatting a line without errors settles it, if no key that is written is a blank. -/
theorem settled_of_formatLine {found : List Finding} (done : checkLine text = .ok found)
    (noError : ∀ finding ∈ found, finding.isError = false)
    (visible : ∀ line, Serializes tolerant text line → line.keys.Visible) :
    ∃ after, formatLine tolerant text = .ok after ∧ Settled after := by
  rcases checkLine_cases done noError with ⟨kind, isKind, different⟩ | ⟨checked, serialized, _⟩
  · exact ⟨text, formatLine_of_kind isKind different, .other kind isKind different⟩
  · obtain ⟨line, read⟩ : ∃ line, ActionLine.read tolerant text = .ok line := by
      cases tolerant with
      | true => exact LineKind.of_eq_action_iff.1 serialized.1
      | false => exact ⟨checked, serialized.2⟩
    have written : Serializes tolerant text line := ⟨serialized.1, read⟩
    obtain ⟨⟨source, _, parsed⟩, _⟩ := ActionLine.parsed_of_read read
    have inRange := inRange_of_checkLine done noError written
    exact ⟨line.toText, formatLine_of_serializes written,
      settled_toText parsed inRange (inRange.stable (visible line written))⟩

/-- A formatted line can be formatted again, which leaves it alone exactly when the action that was
written is stable. -/
theorem formatLine_again (done : formatLine tolerant text = .ok after) :
    ∃ again, formatLine tolerant after = .ok again ∧
      (again = after ↔ ∀ line, Serializes tolerant text line → line.Stable tolerant) := by
  rcases formatLine_cases done with ⟨line, serialized, rfl⟩ | ⟨rfl, none⟩
  · obtain ⟨⟨source, _, parsed⟩, valid⟩ := ActionLine.parsed_of_read serialized.2
    have allowed : tolerant = true ∨ line.InRange := by
      cases tolerant with
      | true => exact Or.inl rfl
      | false => exact Or.inr (valid rfl)
    have action : LineKind.of line.toText = .ok .action :=
      LineKind.of_eq_action_iff.2 ⟨_, ActionLine.read_toText parsed (Or.inl rfl)⟩
    refine ⟨(line.reread tolerant).toText, formatLine_of_serializes
      ⟨action, ActionLine.read_toText parsed allowed⟩, ?_⟩
    rw [parsed.toText_reread_eq_iff allowed]
    constructor
    · intro stable other written
      cases serialized.2.symm.trans written.2
      exact stable
    · intro each
      exact each line serialized
  · exact ⟨after, done, fun _ line written => absurd written (none line), fun _ => rfl⟩

/-- A key that ends a line was typed as it is. -/
theorem endsLine_of_writtenBy {source : Text} {keys : KeySet} (written : keys.WrittenBy source)
    (single : Text.OneLine source) {char : Char} (member : [char] ∈ keys) :
    Text.endsLine char = false := by
  obtain ⟨typed, inside, _, shape⟩ := written [char] member
  obtain rfl : char = keyOf typed := by simpa using shape
  cases ends : Text.endsLine (keyOf typed) with
  | false => rfl
  | true =>
      have caseless := Text.isCaseless_of_isBlank (Text.isBlank_of_endsLine ends)
      rw [← (keyOf_eq_iff caseless).1 rfl, single typed inside] at ends
      cases ends

/-- The canonical text of an action that was read from one line is one line. -/
theorem oneLine_toText {source : Text} (parsed : line.Parsed source)
    (single : Text.OneLine source) : Text.OneLine line.toText := by
  obtain ⟨frames, natural, _⟩ := parsed.counted
  intro char member
  rw [ActionLine.toText, ActionLine.fields, ActionLine.intercalate_delimiter, List.mem_append,
    List.mem_flatMap] at member
  rcases member with inFrames | ⟨field, inFields, inField⟩
  · rw [ActionLine.frameField_of_natural natural, List.leftpad, List.mem_append] at inFrames
    rcases inFrames with blank | digit
    · rw [List.eq_of_mem_replicate blank]
      decide
    · exact Text.endsLine_of_visible (ActionLine.isBlank_of_mem_ofNat digit)
  rcases List.mem_cons.1 inField with rfl | inside
  · decide
  rcases List.mem_append.1 inFields with tagged | numbered
  · obtain ⟨tag, _, rfl⟩ := List.mem_map.1 tagged
    rw [ActionLine.tagField_eq] at inside
    rcases List.mem_cons.1 inside with rfl | listed
    · exact Text.endsLine_of_visible (ActionLine.isBlank_letter tag)
    rcases ActionLine.mem_tagList listed with ⟨other, rfl⟩ | key
    · exact Text.endsLine_of_visible (ActionLine.isBlank_letter other)
    · exact endsLine_of_writtenBy parsed.written single
        (parsed.divisible.typed.mem_concat_iff.1 key)
  · exact Text.endsLine_of_visible
      ((parsed.divisible.featherFields_numeral field numbered).visible char inside)

theorem oneLine_formatLine (done : formatLine tolerant text = .ok after)
    (single : Text.OneLine text) : Text.OneLine after := by
  rcases formatLine_cases done with ⟨line, serialized, rfl⟩ | ⟨rfl, _⟩
  · obtain ⟨⟨source, inside, parsed⟩, _⟩ := ActionLine.parsed_of_read serialized.2
    exact oneLine_toText parsed fun char member => single char (inside.subset member)
  · exact single

/-! ## Whole scripts -/

variable {lines results : List Text} {found : List (List Finding)}

theorem oneLine_format (finished : format tolerant lines = ⟨results, none⟩)
    (single : ∀ text ∈ lines, Text.OneLine text) : ∀ after ∈ results, Text.OneLine after := by
  intro after member
  obtain ⟨text, inLines, done⟩ := Progress.exists_of_mem_results finished member
  exact oneLine_formatLine done (single text inLines)

theorem isError_of_errorCount (noError : errorCount found.flatten = 0) {findings : List Finding}
    (member : findings ∈ found) : ∀ finding ∈ findings, finding.isError = false := by
  intro finding inside
  rw [errorCount, List.countP_eq_zero] at noError
  exact Bool.eq_false_iff.2 (noError finding (List.mem_flatten.2 ⟨findings, member, inside⟩))

/-- A script that passes a check and has only canonical actions is settled. -/
theorem settled_of_check (checked : check lines = ⟨found, none⟩)
    (noError : errorCount found.flatten = 0)
    (canonical : ∀ expected, .notCanonical expected ∉ found.flatten) :
    ∀ text ∈ lines, Settled text := by
  intro text member
  obtain ⟨findings, listed, done⟩ := Progress.exists_of_mem_lines checked member
  refine settled_of_checkLine done (isError_of_errorCount noError listed) fun expected inside => ?_
  exact canonical expected (List.mem_flatten.2 ⟨findings, listed, inside⟩)

/-- Formatting settles a script that passes a check, if no key that is written is a blank. -/
theorem settled_format_of_check (checked : check lines = ⟨found, none⟩)
    (noError : errorCount found.flatten = 0)
    (visible : ∀ text ∈ lines, ∀ line, Serializes tolerant text line → line.keys.Visible) :
    ∃ results, format tolerant lines = ⟨results, none⟩ ∧ ∀ after ∈ results, Settled after := by
  apply Progress.through_of_forall
  intro text member
  obtain ⟨findings, listed, done⟩ := Progress.exists_of_mem_lines checked member
  exact settled_of_formatLine done (isError_of_errorCount noError listed) (visible text member)

theorem format_of_settled (settled : ∀ text ∈ lines, Settled text) (tolerant : Bool) :
    format tolerant lines = ⟨lines, none⟩ :=
  Progress.through_of_fixed fun text member => (settled text member).formatLine tolerant

theorem check_of_settled (settled : ∀ text ∈ lines, Settled text) :
    ∃ found, check lines = ⟨found, none⟩ ∧
      ∀ findings ∈ found, ∀ finding ∈ findings, ∃ frames, finding = .wideCount frames :=
  Progress.through_of_forall fun text member => (settled text member).checkLine

/-- A formatted script can be formatted again, which leaves it alone exactly when every action that
was written is stable. -/
theorem format_again (finished : format tolerant lines = ⟨results, none⟩) :
    ∃ again, format tolerant results = ⟨again, none⟩ ∧
      (again = results ↔
        ∀ text ∈ lines, ∀ line, Serializes tolerant text line → line.Stable tolerant) := by
  rw [format, Progress.through_eq_iff] at finished
  simp only [format, Progress.through_eq_iff]
  induction lines generalizing results with
  | nil =>
      cases results with
      | nil => exact ⟨[], rfl, by simp⟩
      | cons first others => cases finished
  | cons text rest ih =>
      cases results with
      | nil => cases finished
      | cons after others =>
          rw [List.map_cons, List.map_cons, List.cons.injEq] at finished
          obtain ⟨next, done, same⟩ := formatLine_again finished.1
          obtain ⟨again, later, laterSame⟩ := ih finished.2
          refine ⟨next :: again, by simp [done, later], ?_⟩
          rw [List.cons.injEq, same, laterSame, List.forall_mem_cons]

theorem changedCount_self (lines : List Text) : changedCount lines lines = 0 := by
  rw [changedCount, List.countP_eq_zero]
  intro pair member
  obtain ⟨before, after⟩ := pair
  have same : before = after := by
    rw [List.zip_eq_zipWith, List.zipWith_self, List.mem_map] at member
    obtain ⟨text, _, shape⟩ := member
    cases shape
    rfl
  simp [same]

end FrameScript.Script
