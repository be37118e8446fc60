import FrameScript.Proofs.ActionLine.RoundTrip

/-!
# Normal forms

A line need not come from a reader: it can hold inputs that are never written, numbers without the
feather, or keys without their opener.  Its canonical text stands for its normal form, which has
none of these, and in which a magnitude without an angle has become the angle.  So a line in normal
form is told by its text.
-/

namespace FrameScript

open Number (Range)

namespace ActionLine

/-- A line that was put together from a frame count that can be converted, numbers in range, and
keys that can be typed and do not end in a blank.  The magnitude may be left open, and any inputs
may be held. -/
structure Composed (line : ActionLine) : Prop where
  counted : line.Framed
  angle : ∀ text, line.angle = some text → Range.angle.Within text
  magnitude : ∀ text, line.magnitude = some text → text = [] ∨ Range.magnitude.Within text
  typed : line.keys.Typed
  ends : line.keys.EndsVisibly

/-- The line that a canonical text stands for: the inputs that are written, numbers only with the
feather, a lone magnitude in the place of the angle, and keys only behind their opener. -/
def normal (line : ActionLine) : ActionLine where
  frames := line.frames
  held := line.held.written
  angle :=
    if line.held.contains (.tag .feather) then
      line.angle.or (line.magnitude.filter fun text => !text.isEmpty)
    else none
  magnitude :=
    if line.held.contains (.tag .feather) && line.angle.isSome then line.magnitude else none
  keys := if line.held.contains (.tag .keys) then line.keys else ∅

variable {line : ActionLine}

theorem normal_eq (line : ActionLine) :
    line.normal =
      { line.core line.keys with angle := line.normal.angle, magnitude := line.normal.magnitude } :=
  rfl

theorem Composed.divisible (composed : line.Composed) : line.Divisible where
  counted := composed.counted
  typed := composed.typed
  numeral := by
    rintro text (angle | magnitude)
    · exact (composed.angle text angle).admits.numeral
    · rcases composed.magnitude text magnitude with rfl | within
      · exact fun char member => absurd member List.not_mem_nil
      · exact within.admits.numeral

end ActionLine

namespace Delimited

open ActionLine

variable {line : ActionLine}

theorem step_shiftedAngle_of_admits (start : ActionLine) {text : Text}
    (admitted : Range.angle.Admits text) :
    step true ⟨.shiftedAngle, start⟩ text = .ok ⟨.tag, { start with angle := some text }⟩ := by
  simp only [step, admitted.clampText?_eq]

/-- Behind an empty field for the angle, a magnitude is read as the angle. -/
theorem foldlM_loneMagnitude (composed : line.Composed) (start : ActionLine)
    (plain : start.angle = none) :
    ∃ expected,
      line.magnitude.toList.foldlM (step true) ⟨.shiftedAngle, start⟩ =
        .ok ⟨expected,
          { start with angle := line.magnitude.filter fun text => !text.isEmpty }⟩ := by
  obtain ⟨frames, held, angle, magnitude, keys⟩ := start
  subst plain
  cases given : line.magnitude with
  | none => exact ⟨.shiftedAngle, rfl⟩
  | some text =>
      refine ⟨.tag, ?_⟩
      rcases composed.magnitude text given with rfl | within
      · rfl
      · have admitted := within.angle.admits
        have filled : text.isEmpty = false := by simp [admitted.ne_nil]
        rw [Option.toList_some, foldlM_cons_of_ok (step_shiftedAngle_of_admits _ admitted),
          Option.filter_some, filled]
        rfl

/-- Behind an angle, the magnitude is read as it is. -/
theorem foldlM_typedMagnitude (composed : line.Composed) (start : ActionLine)
    (plain : start.magnitude = none) :
    ∃ expected,
      line.magnitude.toList.foldlM (step true) ⟨.magnitude, start⟩ =
        .ok ⟨expected, { start with magnitude := line.magnitude }⟩ := by
  obtain ⟨frames, held, angle, magnitude, keys⟩ := start
  subst plain
  cases given : line.magnitude with
  | none => exact ⟨.magnitude, rfl⟩
  | some text =>
      have admitted := (composed.magnitude text given).imp_right Range.Within.admits
      refine ⟨.tag, ?_⟩
      rw [Option.toList_some, foldlM_cons_of_ok (step_magnitude_of_admits true _ admitted)]
      rfl

/-- The fields behind the tags give the numbers of the normal form. -/
theorem foldlM_featherFields_of_composed (composed : line.Composed) (keys : KeySet) :
    ∃ expected,
      line.featherFields.foldlM (step true) ⟨expectedAfterTags line, line.core keys⟩ =
        .ok ⟨expected,
          { line.core keys with
            angle := line.normal.angle, magnitude := line.normal.magnitude }⟩ := by
  cases feather : line.held.contains (.tag .feather) with
  | false =>
      refine ⟨.tag, ?_⟩
      simp only [featherFields, expectedAfterTags, normal, feather, Bool.false_and,
        Bool.false_eq_true, if_false]
      rfl
  | true =>
      simp only [featherFields, expectedAfterTags, normal, feather, Bool.true_and, if_true]
      cases given : line.angle with
      | none =>
          obtain ⟨expected, scanned⟩ := foldlM_loneMagnitude composed (line.core keys) rfl
          exact ⟨expected, scanned⟩
      | some text =>
          have admitted := (composed.angle text given).admits
          obtain ⟨expected, scanned⟩ := foldlM_typedMagnitude composed
            { line.core keys with angle := some text } rfl
          refine ⟨expected, ?_⟩
          rw [Option.getD_some, foldlM_cons_of_ok (step_angle_of_admits true _ admitted), scanned]
          rfl

end Delimited

namespace ActionLine

theorem Composed.read_toText {line : ActionLine} (composed : line.Composed) :
    Delimited.read true line.toText = .ok line.normal := by
  have keys := composed.typed.readBack_eq_iff.2 composed.ends
  obtain ⟨expected, scanned⟩ := Delimited.foldlM_featherFields_of_composed composed line.keys
  rw [Delimited.read_toText_eq true composed.divisible, keys, scanned, normal_eq line]
  exact congrArg (Except.mapError _) (if_neg (by simp))

/-- The canonical text of a composed line is read as the normal form of the line, so no two composed
lines in normal form have the same text. -/
theorem read_toText_of_composed (line : ActionLine) (composed : line.Composed) :
    Delimited.read true line.toText = .ok line.normal ∧
      ∀ other : ActionLine, other.Composed → line.normal = line → other.normal = other →
        other.toText = line.toText → other = line := by
  refine ⟨composed.read_toText, fun other otherComposed fixed otherFixed same => ?_⟩
  have second := otherComposed.read_toText
  rw [same, composed.read_toText, fixed, otherFixed] at second
  exact (Except.ok.inj second).symm

/-- A line with a digit that belongs to no input, a restricted direction without its opener, a
magnitude without an angle, and a blank among its keys that is not the greatest. -/
theorem read_toText_of_composed_orphans :
    let line : ActionLine :=
      ⟨7, ⟨134217728 + 67108864 + 65536 + 512 + 2⟩, none, some "0.50".toList, .ofText " A".toList⟩
    line.toText = "   7,R,P A,F,,0.50".toList ∧
      Delimited.read true line.toText =
        .ok ⟨7, ⟨67108864 + 512 + 2⟩, some "0.50".toList, none, .ofText " A".toList⟩ := by
  have keys : (KeySet.ofText " A".toList).keys = [[' ']] ++ [['A']] := by decide +kernel
  have composed : ActionLine.Composed ⟨7, ⟨134217728 + 67108864 + 65536 + 512 + 2⟩, none,
      some "0.50".toList, .ofText " A".toList⟩ := by
    refine ⟨⟨7, rfl, by decide⟩, by simp, ?_, ?_, KeySet.endsVisibly_of_last keys (by decide)⟩
    · intro text given
      cases given
      exact Or.inr ⟨by decide +kernel, _, rfl, by decide +kernel, by decide +kernel⟩
    · intro key member
      change key ∈ (KeySet.ofText " A".toList).keys at member
      rw [keys] at member
      rcases List.mem_cons.1 member with rfl | last
      · exact ⟨' ', rfl, by decide +kernel, by decide⟩
      · exact ⟨'A', List.mem_singleton.1 last, by decide +kernel, by decide⟩
  refine ⟨by decide +kernel, (read_toText_of_composed _ composed).1.trans ?_⟩
  decide +kernel

end ActionLine

end FrameScript
