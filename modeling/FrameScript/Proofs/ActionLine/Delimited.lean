import FrameScript.Proofs.ActionLine.Parsed

/-!
# Lines read field by field

One field keeps what holds between two fields, so a whole delimited reading keeps it by induction
over the fields: its numbers are always in range.
-/

namespace FrameScript

open Number (Range)

namespace Delimited

open ActionLine

variable {source : Text}

theorem holdRestricted_consistent {restriction : Restriction} {line : ActionLine}
    (consistent : line.Consistent source)
    (opener : line.held.contains (.tag (.only restriction)) = true) (char : Char) :
    (holdRestricted restriction line char).Consistent source ∧
      (holdRestricted restriction line char).held.contains (.tag (.only restriction)) = true := by
  rw [holdRestricted]
  split
  · exact ⟨consistent.holdRestricted opener _, contains_hold_of_contains opener _⟩
  · exact ⟨consistent, opener⟩

theorem foldl_holdRestricted_consistent {restriction : Restriction} {line : ActionLine}
    (consistent : line.Consistent source)
    (opener : line.held.contains (.tag (.only restriction)) = true) (list : Text) :
    (list.foldl (holdRestricted restriction) line).Consistent source := by
  induction list generalizing line with
  | nil => exact consistent
  | cons char rest ih =>
      have next := holdRestricted_consistent consistent opener char
      exact ih next.1 next.2

theorem holdTag_consistent {line : ActionLine} (consistent : line.Consistent source) (tag : Tag)
    {list : Text} (inside : ∀ char ∈ list, char ∈ source ∧ char ≠ delimiter) :
    (holdTag line tag list).Consistent source := by
  have held := consistent.hold tag
  cases tag with
  | only restriction => exact foldl_holdRestricted_consistent held (contains_hold_self _ _) list
  | keys =>
      refine held.withKeys (contains_hold_self _ _) fun key member => ?_
      obtain ⟨char, inList, rfl⟩ := List.mem_map.1 (KeySet.mem_ofList.1 member)
      exact ⟨char, (inside char inList).1, (inside char inList).2, rfl⟩
  | direction _ => exact held
  | button _ => exact held
  | feather => exact held

/-- The inputs that a tag holds with a list of characters behind it. -/
def inputsOf (tag : Tag) (list : Text) : List Input :=
  match tag with
  | .only restriction =>
      .tag tag :: list.filterMap fun char =>
        ((Tag.ofChar? char).bind Tag.direction?).map (.restricted restriction)
  | _ => [.tag tag]

theorem foldl_holdRestricted_eq (restriction : Restriction) (line : ActionLine) (list : Text) :
    list.foldl (holdRestricted restriction) line =
      { line with
        held := (list.filterMap fun char =>
          ((Tag.ofChar? char).bind Tag.direction?).map (.restricted restriction)).foldl
            Held.insert line.held } := by
  induction list generalizing line with
  | nil => rfl
  | cons char rest ih =>
      rw [List.foldl_cons, ih, holdRestricted, List.filterMap_cons]
      cases (Tag.ofChar? char).bind Tag.direction? <;> rfl

/-- A tag changes the held inputs and the keys of a line only. -/
theorem holdTag_eq (line : ActionLine) (tag : Tag) (list : Text) :
    holdTag line tag list =
      { line with
        held := (inputsOf tag list).foldl Held.insert line.held
        keys := if tag = .keys then .ofText list else line.keys } := by
  cases tag with
  | only restriction => exact foldl_holdRestricted_eq restriction (line.hold _) list
  | direction _ => rfl
  | button _ => rfl
  | keys => rfl
  | feather => rfl

/-- What holds between two fields. -/
structure Between (source : Text) (frames : Int) (scan : Scan) : Prop where
  consistent : scan.line.Consistent source
  frames_eq : scan.line.frames = frames
  expecting : scan.expected ≠ .tag → scan.line.held.contains (.tag .feather) = true
  angleRead : scan.expected = .magnitude → scan.line.angle ≠ none
  angled : scan.line.magnitude ≠ none → scan.line.angle ≠ none
  inRange : scan.line.InRange

variable {frames : Int}

theorem Between.passed {scan : Scan} (between : Between source frames scan) :
    Between source frames ⟨.tag, scan.line⟩ :=
  ⟨between.consistent, between.frames_eq, fun other => absurd rfl other, by simp, between.angled,
    between.inRange⟩

theorem Between.takeTag {scan : Scan} (between : Between source frames scan) {field : Text}
    (inside : ∀ char ∈ field, char ∈ source ∧ char ≠ delimiter) :
    Between source frames (takeTag scan.line field) := by
  cases field with
  | nil => exact between.passed
  | cons first list =>
      rw [Delimited.takeTag]
      split
      · rename_i tag _
        have consistent := holdTag_consistent between.consistent tag
          fun char member => inside char (List.mem_cons_of_mem first member)
        have shape := holdTag_eq scan.line tag list
        refine ⟨consistent, ?_, ?_, ?_, ?_, ?_⟩
        · rw [shape]
          exact between.frames_eq
        · intro other
          cases tag with
          | feather => exact contains_hold_self _ _
          | direction _ => exact absurd rfl other
          | button _ => exact absurd rfl other
          | only _ => exact absurd rfl other
          | keys => exact absurd rfl other
        · intro magnitude
          cases tag <;> simp [expectedAfter] at magnitude
        · rw [shape]
          exact between.angled
        · rw [shape]
          exact ⟨between.inRange.angle, between.inRange.magnitude⟩
      · exact between.passed

theorem Between.retake {scan next : Scan} {tolerant : Bool} {field : Text} {reason : Rejection}
    (between : Between source frames scan)
    (inside : ∀ char ∈ field, char ∈ source ∧ char ≠ delimiter)
    (taken : retake tolerant scan.line field reason = .ok next) : Between source frames next := by
  rw [Delimited.retake] at taken
  split at taken
  · cases taken
    exact between.takeTag inside
  · cases taken

theorem Between.withAngle {scan : Scan} (between : Between source frames scan)
    (feather : scan.line.held.contains (.tag .feather) = true) {angle : Text}
    (admitted : Range.angle.Admits angle) (expected : Expected) :
    Between source frames ⟨expected, { scan.line with angle := some angle }⟩ := by
  refine ⟨between.consistent.withNumbers (fun _ => feather), between.frames_eq, fun _ => feather,
    fun _ => by simp, fun _ => by simp, ⟨?_, between.inRange.magnitude⟩⟩
  intro text given
  cases given
  exact admitted

theorem Between.withMagnitude {scan : Scan} (between : Between source frames scan)
    (expected : scan.expected = .magnitude) {magnitude : Text}
    (admitted : magnitude = [] ∨ Range.magnitude.Admits magnitude) :
    Between source frames ⟨.tag, { scan.line with magnitude := some magnitude }⟩ := by
  have feather := between.expecting (by rw [expected]; decide)
  refine ⟨between.consistent.withNumbers (fun _ => feather), between.frames_eq, fun _ => feather,
    by simp, fun _ => between.angleRead expected, ⟨between.inRange.angle, ?_⟩⟩
  intro text given
  cases given
  exact admitted

/-- One field keeps what holds between two fields. -/
theorem Between.step {scan next : Scan} {tolerant : Bool} {field : Text}
    (between : Between source frames scan) (trimmed : Text.trim field = field)
    (inside : ∀ char ∈ field, char ∈ source ∧ char ≠ delimiter)
    (taken : step tolerant scan field = .ok next) : Between source frames next := by
  obtain ⟨expected, line⟩ := scan
  cases expected with
  | tag =>
      cases taken
      exact between.takeTag inside
  | angle =>
      have feather := between.expecting (by simp)
      simp only [Delimited.step] at taken
      split at taken
      · rename_i found
        cases taken
        exact between.withAngle feather
          (Range.proper_angle.admits_of_clampText? trimmed found) _
      split at taken
      · cases taken
        exact ⟨between.consistent, between.frames_eq, fun _ => feather, by simp, between.angled,
          between.inRange⟩
      · exact between.retake inside taken
  | shiftedAngle =>
      have feather := between.expecting (by simp)
      simp only [Delimited.step] at taken
      split at taken
      · rename_i found
        cases taken
        exact between.withAngle feather
          (Range.proper_angle.admits_of_clampText? trimmed found) _
      · exact between.retake inside taken
  | magnitude =>
      simp only [Delimited.step] at taken
      split at taken
      · cases taken
        exact between.withMagnitude rfl (Or.inl rfl)
      split at taken
      · rename_i found
        cases taken
        exact between.withMagnitude rfl
          (Or.inr (Range.proper_magnitude.admits_of_clampText? trimmed found))
      · exact between.retake inside taken

theorem fieldsOf_eq (line : Text) :
    fieldsOf line = (line.splitOn delimiter).map Text.trim :=
  Text.map_trim_splitOn_trim (by decide) line

theorem fieldsOf_intercalate {first : Text} {rest : List Text}
    (undivided : ∀ field ∈ first :: rest, delimiter ∉ field) :
    fieldsOf ([delimiter].intercalate (first :: rest)) = (first :: rest).map Text.trim := by
  rw [fieldsOf_eq, List.splitOn_intercalate delimiter undivided (List.cons_ne_nil first rest)]

theorem trim_of_mem_fieldsOf {line field : Text} (member : field ∈ fieldsOf line) :
    Text.trim field = field := by
  obtain ⟨part, _, rfl⟩ := List.mem_map.1 member
  exact Text.trim_trim part

theorem inside_of_mem_fieldsOf {line field : Text} (member : field ∈ fieldsOf line) :
    ∀ char ∈ field, char ∈ line ∧ char ≠ delimiter := by
  rw [fieldsOf_eq] at member
  obtain ⟨part, inParts, rfl⟩ := List.mem_map.1 member
  intro char inside
  have inPart := (Text.trim_sublist part).subset inside
  refine ⟨Text.mem_of_mem_splitOn inParts inPart, ?_⟩
  rintro rfl
  exact Text.notMem_of_mem_splitOn inParts inPart

/-- A line that was read from fields is what the scan of the fields comes to. -/
theorem exists_scan_of_readFields {tolerant : Bool} {count : Nat} {fields : List Text}
    {line : ActionLine} (ran : readFields tolerant count fields = .ok line) :
    ∃ expected, fields.foldlM (Delimited.step tolerant) ⟨.tag, { frames := count }⟩ =
      .ok ⟨expected, line⟩ := by
  rw [readFields] at ran
  cases scanned : fields.foldlM (Delimited.step tolerant) ⟨.tag, { frames := count }⟩ with
  | error reason =>
      rw [scanned] at ran
      cases ran
  | ok last =>
      rw [scanned] at ran
      change finish tolerant last = .ok line at ran
      rw [finish] at ran
      split at ran
      · cases ran
      · cases ran
        exact ⟨last.expected, rfl⟩

theorem readFields_ok {tolerant : Bool} {count : Nat} {fields : List Text} {line : ActionLine}
    (ran : readFields tolerant count fields = .ok line)
    (trimmed : ∀ field ∈ fields, Text.trim field = field)
    (inside : ∀ field ∈ fields, ∀ char ∈ field, char ∈ source ∧ char ≠ delimiter) :
    ∃ expected, Between source count ⟨expected, line⟩ := by
  obtain ⟨expected, scanned⟩ := exists_scan_of_readFields ran
  have start : Between source count ⟨.tag, { frames := count }⟩ :=
    ⟨consistent_start source count, rfl, by simp, by simp, by simp, by simp, by simp⟩
  exact ⟨expected, foldlM_preserves (Between source count)
    (fun field member scan next holds taken =>
      holds.step (trimmed field member) (inside field member) taken) start scanned⟩

/-- The frame count of a line that could be read. -/
theorem read?_counted {text : Text} {count : Nat}
    (read : FrameCount.read? text = .ok (some count)) :
    (Text.ofNat count).length ≤ digitLimit := by
  rw [FrameCount.read?] at read
  split at read
  · rename_i isDigits
    obtain ⟨given, digits⟩ := Text.isDigits_iff.1 isDigits
    cases converted : (FrameCount.ofDigits text).checked with
    | error fault =>
        rw [converted] at read
        cases read
    | ok value =>
        rw [converted] at read
        cases read
        refine FrameCount.length_ofNat_le (FrameCount.bounded_ofDigits digits) ?_ converted
        rw [FrameCount.ofDigits_digits]
        exact mt List.length_eq_zero_iff.1 given
  · cases read

/-- A line that was read has a frame count in its first field. -/
theorem readFields_of_read {tolerant : Bool} {text : Text} {line : ActionLine}
    (found : read tolerant text = .ok line) :
    ∃ count, FrameCount.read? ((fieldsOf text).headD []) = .ok (some count) ∧
      readFields tolerant count (fieldsOf text).tail = .ok line := by
  rw [read] at found
  split at found
  · cases found
  · cases found
  · rename_i count counted
    refine ⟨count, counted, ?_⟩
    cases ran : readFields tolerant count (fieldsOf text).tail with
    | error reason =>
        rw [ran] at found
        cases found
    | ok result =>
        rw [ran] at found
        cases found
        rfl

/-- A line that was read as a delimited one has its numbers in range. -/
theorem parsed_of_read {tolerant : Bool} {text : Text} {line : ActionLine}
    (found : read tolerant text = .ok line) : line.Parsed text ∧ line.InRange := by
  obtain ⟨count, counted, ran⟩ := readFields_of_read found
  obtain ⟨expected, between⟩ := readFields_ok ran
    (fun field member => trim_of_mem_fieldsOf (List.mem_of_mem_tail member))
    (fun field member => inside_of_mem_fieldsOf (List.mem_of_mem_tail member))
  have inRange := between.inRange
  refine ⟨⟨between.consistent, ⟨count, between.frames_eq, read?_counted counted⟩,
    between.angled, fun text given => Or.inl (inRange.angle text given),
    fun text given => ?_⟩, inRange⟩
  rcases inRange.magnitude text given with vacant | admitted
  · exact Or.inl vacant
  · exact Or.inr (Or.inl admitted)

end Delimited

end FrameScript
