import FrameScript.Proofs.ActionLine.Delimited
import FrameScript.Proofs.Line.Spacing
import FrameScript.Proofs.Number.Capitals

/-!
# Lines in capitals

The letters of a line may be typed in either case.  Read character by character, a line in capitals
is the same line.  Read field by field it is the same line too, except that a number is kept as it
was typed, so that the mark of a power of ten in it becomes a capital.  The kind of a line does not
depend on the case of its letters.
-/

namespace FrameScript

open ActionLine (delimiter)
open Number (Range)
open Text (inCapitals)

/-- The line with its numbers in capitals. -/
def ActionLine.inCapitals (line : ActionLine) : ActionLine :=
  { line with
    angle := line.angle.map Text.inCapitals
    magnitude := line.magnitude.map Text.inCapitals }

/-- The reason with the text that it names in capitals. -/
def Rejection.inCapitals : Rejection → Rejection
  | .invalidFrameCount field => .invalidFrameCount (Text.inCapitals field)
  | .noFrameCount => .noFrameCount
  | .noActions => .noActions
  | .invalidAngle text => .invalidAngle (Text.inCapitals text)
  | .invalidMagnitude text => .invalidMagnitude (Text.inCapitals text)

/-- The reading with its line or its reason in capitals. -/
def Reading.inCapitals : Reading → Reading
  | .ok line => .ok line.inCapitals
  | .error (.rejected reason) => .error (.rejected reason.inCapitals)
  | .error (.overlong fault) => .error (.overlong fault)

theorem Reading.outcome_inCapitals (reading : Reading) :
    reading.inCapitals.outcome = reading.outcome.map (Option.map ActionLine.inCapitals) := by
  cases reading with
  | ok line => rfl
  | error refusal => cases refusal <;> rfl

namespace Delimited

variable {tolerant : Bool}

/-- The state with the numbers read so far in capitals. -/
def Scan.inCapitals (scan : Scan) : Scan := ⟨scan.expected, scan.line.inCapitals⟩

/-- What comes of reading fields in capitals. -/
def capitalized (taken : Except Rejection Scan) : Except Rejection Scan :=
  (taken.map Scan.inCapitals).mapError Rejection.inCapitals

theorem fieldsOf_inCapitals (text : Text) :
    fieldsOf (inCapitals text) = (fieldsOf text).map inCapitals := by
  rw [fieldsOf, Text.trim_inCapitals, Text.splitOn_inCapitals (by decide), List.map_map, fieldsOf,
    List.map_map]
  exact List.map_congr_left fun part _ => Text.trim_inCapitals part

theorem holdTag_inCapitals (line : ActionLine) (tag : Tag) (list : Text) :
    holdTag line.inCapitals tag (inCapitals list) = (holdTag line tag list).inCapitals := by
  have inputs : inputsOf tag (inCapitals list) = inputsOf tag list := by
    cases tag with
    | only restriction =>
        simp only [inputsOf, inCapitals, List.filterMap_map, Function.comp_def, Tag.ofChar?_keyOf]
    | direction _ => rfl
    | button _ => rfl
    | keys => rfl
    | feather => rfl
  have keys : KeySet.ofText (inCapitals list) = KeySet.ofText list := by
    simp only [KeySet.ofText, inCapitals, List.map_map, Function.comp_def, keyOf_keyOf]
  rw [holdTag_eq, holdTag_eq, inputs, keys]
  rfl

theorem takeTag_inCapitals (line : ActionLine) (field : Text) :
    takeTag line.inCapitals (inCapitals field) = (takeTag line field).inCapitals := by
  cases field with
  | nil => rfl
  | cons first list =>
      rw [Text.inCapitals_cons, takeTag, takeTag, Tag.ofChar?_keyOf]
      cases Tag.ofChar? first with
      | none => rfl
      | some tag =>
          dsimp only
          rw [holdTag_inCapitals, Scan.inCapitals]

theorem retake_inCapitals (line : ActionLine) (field : Text) (reason : Rejection) :
    retake tolerant line.inCapitals (inCapitals field) reason.inCapitals =
      capitalized (retake tolerant line field reason) := by
  rw [retake, retake, takeTag_inCapitals]
  split <;> rfl

/-- Reading one field in capitals leads to the state in capitals. -/
theorem step_inCapitals (scan : Scan) (field : Text) :
    step tolerant scan.inCapitals (inCapitals field) = capitalized (step tolerant scan field) := by
  obtain ⟨expected, line⟩ := scan
  have empty : (inCapitals field).isEmpty = field.isEmpty := List.isEmpty_map
  cases expected with
  | tag => exact congrArg Except.ok (takeTag_inCapitals line field)
  | angle =>
      simp only [step, Scan.inCapitals, Range.clampText?_angle_inCapitals, empty]
      cases Range.angle.clampText? field with
      | some angle => rfl
      | none =>
          simp only [Option.map_none]
          split
          · rfl
          · exact retake_inCapitals line field (.invalidAngle field)
  | shiftedAngle =>
      simp only [step, Scan.inCapitals, Range.clampText?_angle_inCapitals]
      cases Range.angle.clampText? field with
      | some angle => rfl
      | none => exact retake_inCapitals line field (.invalidAngle [])
  | magnitude =>
      simp only [step, Scan.inCapitals, Range.clampText?_magnitude_inCapitals, empty]
      split
      · rfl
      · cases Range.magnitude.clampText? field with
        | some magnitude => rfl
        | none => exact retake_inCapitals line field (.invalidMagnitude field)

theorem foldlM_inCapitals (fields : List Text) (scan : Scan) :
    (fields.map inCapitals).foldlM (step tolerant) scan.inCapitals =
      capitalized (fields.foldlM (step tolerant) scan) := by
  induction fields generalizing scan with
  | nil => rfl
  | cons field rest ih =>
      rw [List.map_cons, List.foldlM_cons, step_inCapitals, List.foldlM_cons]
      cases step tolerant scan field with
      | error reason => rfl
      | ok next => exact ih next

theorem readFields_inCapitals (count : Nat) (fields : List Text) :
    readFields tolerant count (fields.map inCapitals) =
      ((readFields tolerant count fields).map ActionLine.inCapitals).mapError
        Rejection.inCapitals := by
  have start : (⟨.tag, { frames := count }⟩ : Scan) =
      Scan.inCapitals ⟨.tag, { frames := count }⟩ := rfl
  rw [readFields, start, foldlM_inCapitals, readFields]
  cases fields.foldlM (step tolerant) ⟨.tag, { frames := count }⟩ with
  | error reason => rfl
  | ok last =>
      change finish tolerant last.inCapitals = ((finish tolerant last).map _).mapError _
      rw [finish, finish, Scan.inCapitals]
      split <;> rfl

theorem read?_inCapitals (field : Text) :
    FrameCount.read? (inCapitals field) = FrameCount.read? field := by
  rw [FrameCount.read?, Text.isDigits_inCapitals, FrameCount.read?]
  split
  · rename_i isDigits
    rw [Text.inCapitals_of_isDigit (Text.isDigits_iff.1 isDigits).2]
  · rfl

/-- A delimited line in capitals is read as the line in capitals. -/
theorem read_inCapitals (text : Text) :
    read tolerant (inCapitals text) = (read tolerant text).inCapitals := by
  have first : ((fieldsOf text).map inCapitals).headD [] =
      inCapitals ((fieldsOf text).headD []) := by
    cases fieldsOf text <;> rfl
  rw [read, read, fieldsOf_inCapitals, first, read?_inCapitals, ← List.map_tail]
  cases FrameCount.read? ((fieldsOf text).headD []) with
  | error fault => rfl
  | ok count =>
      cases count with
      | none => rfl
      | some count =>
          dsimp only
          rw [readFields_inCapitals]
          cases readFields tolerant count (fieldsOf text).tail <;> rfl

end Delimited

namespace Lenient

theorem isNumberChar_of_cased {char : Char} (cased : Text.isCaseless char = false) :
    isNumberChar char = false := by
  cases number : isNumberChar char with
  | false => rfl
  | true =>
      rw [isNumberChar, Bool.or_eq_true, beq_iff_eq] at number
      rcases number with digit | rfl
      · rw [isCaseless_of_isDigit digit] at cased
        cases cased
      · cases cased

theorem takeTag_keyOf (scan : Scan) (char : Char) :
    takeTag scan (keyOf char) = takeTag scan char := by
  have divides : keyOf char = delimiter ↔ char = delimiter := keyOf_eq_iff (by decide)
  simp only [takeTag, Tag.ofChar?_keyOf, divides]

/-- A mode does the same with a character and with the key that it writes. -/
theorem dispatch_keyOf (scan : Scan) (char : Char) :
    dispatch scan (keyOf char) = dispatch scan char := by
  cases caseless : Text.isCaseless char with
  | true => rw [keyOf_of_caseless caseless]
  | false =>
      have divides : keyOf char = delimiter ↔ char = delimiter := keyOf_eq_iff (by decide)
      have number := isNumberChar_of_cased caseless
      have keyNumber : isNumberChar (keyOf char) = false :=
        isNumberChar_of_cased (by rw [isCaseless_keyOf, caseless])
      have digit := (Bool.or_eq_false_iff.1 number).1
      have keyDigit := (Bool.or_eq_false_iff.1 keyNumber).1
      obtain ⟨mode, count, line⟩ := scan
      cases mode with
      | frames => simp only [dispatch, digit, keyDigit, divides, Bool.false_eq_true, if_false]
      | tag => rw [dispatch, takeTag_keyOf, dispatch]
      | only restriction => simp only [dispatch, divides, Tag.ofChar?_keyOf]
      | keys => simp only [dispatch, divides, keyOf_keyOf]
      | angle => simp only [dispatch, divides, number, keyNumber, Bool.false_eq_true, if_false]
      | magnitude => simp only [dispatch, divides, number, keyNumber, Bool.false_eq_true, if_false]

theorem step_keyOf (scan : Scan) (char : Char) : step scan (keyOf char) = step scan char := by
  simp only [step, dispatch_keyOf, takeTag_keyOf]

/-- A line in capitals is the same line when it is read character by character. -/
theorem read_inCapitals (tolerant : Bool) (text : Text) :
    read tolerant (inCapitals text) = read tolerant text := by
  have steps : (fun scan char => step scan (keyOf char)) = step := by
    funext scan char
    exact step_keyOf scan char
  rw [read, Text.compact_inCapitals, inCapitals, List.foldlM_map, steps, read]

end Lenient

namespace LineKind

theorem marked?_inCapitals (text : Text) : marked? (inCapitals text) = marked? text := by
  have empty (other : Text) : (inCapitals other).isEmpty = other.isEmpty := List.isEmpty_map
  simp only [marked?, Text.trim_inCapitals, empty,
    Text.isPrefixOf_inCapitals (forall_mem_commentMark (by decide)),
    Text.isPrefixOf_inCapitals (forall_mem_breakpointMark (by decide))]

theorem of_inCapitals (text : Text) : LineKind.of (inCapitals text) = LineKind.of text := by
  rw [LineKind.of, LineKind.of, marked?_inCapitals, ActionLine.read, ActionLine.read,
    Delimited.read_inCapitals, Lenient.read_inCapitals]
  cases marked? text with
  | some kind => rfl
  | none =>
      cases Delimited.read true text with
      | ok line => rfl
      | error refusal => cases refusal <;> rfl

end LineKind

/-- The case of letters does not matter.  A character and the key that it writes stand for the same
tag and the same key.  A line in capitals is the same line when it is read leniently, it is of the
same kind, and read as a delimited one it differs in its numbers only, which are in capitals. -/
theorem read_in_either_case (tolerant : Bool) (text : Text) :
    (∀ char, keyOf (keyOf char) = keyOf char ∧ Tag.ofChar? (keyOf char) = Tag.ofChar? char) ∧
      Lenient.read tolerant (inCapitals text) = Lenient.read tolerant text ∧
      LineKind.of (inCapitals text) = LineKind.of text ∧
      (Delimited.read tolerant (inCapitals text)).outcome =
        (Delimited.read tolerant text).outcome.map (Option.map ActionLine.inCapitals) := by
  refine ⟨fun char => ⟨keyOf_keyOf char, Tag.ofChar?_keyOf char⟩,
    Lenient.read_inCapitals tolerant text, LineKind.of_inCapitals text, ?_⟩
  rw [Delimited.read_inCapitals, Reading.outcome_inCapitals]

end FrameScript
