import FrameScript.Proofs.ActionLine.Feather
import FrameScript.Proofs.ActionLine.WellFormed

/-!
# What a lenient reading loses

The canonical text of a line has a delimiter between the feather and its angle.  Read character by
character, that delimiter ends the angle before it has begun: the angle is collected in the place of
the magnitude, and what is written for the magnitude stands where tags are expected.  A numeral has
no tag in it, so the magnitude is lost, and at the end the lone number becomes the angle and is
written anew.  All else is read as it was written.
-/

namespace FrameScript

open Number (Range)

namespace ActionLine

variable {line : ActionLine}

theorem WellFormed.consistent (wellFormed : line.WellFormed) :
    line.Consistent line.keys.concat where
  named := wellFormed.named
  opened := wellFormed.opened
  feathered := wellFormed.feathered
  keyed := by
    intro key member
    apply wellFormed.keyed
    intro none
    rw [none] at member
    exact KeySet.not_mem_empty key member
  written := by
    intro key member
    obtain ⟨char, rfl, fixed, different⟩ := wellFormed.typed key member
    exact ⟨char, wellFormed.typed.mem_concat_iff.2 member, different, by rw [fixed]⟩

/-- The line without the blanks around its magnitude. -/
def trimmed (line : ActionLine) : ActionLine :=
  { line with magnitude := line.magnitude.map Text.trim }

@[simp] theorem trimmed_held (line : ActionLine) : line.trimmed.held = line.held := rfl

@[simp] theorem trimmed_angle (line : ActionLine) : line.trimmed.angle = line.angle := rfl

theorem compact_featherFields_trimmed (line : ActionLine) :
    line.trimmed.featherFields.map Text.compact = line.featherFields.map Text.compact := by
  rw [featherFields, featherFields, trimmed_held, trimmed_angle]
  split
  · cases given : line.magnitude with
    | none => simp [trimmed, given]
    | some text => simp [trimmed, given, Text.compact_trim]
  · rfl

/-- The blanks around a magnitude are not among the characters that a lenient reading takes. -/
theorem compact_toText_trimmed (line : ActionLine) :
    Text.compact line.trimmed.toText = Text.compact line.toText := by
  have characters (line : ActionLine) :
      Text.compact line.toText =
        Text.compact line.frameField ++
          ((line.held.tags.map line.tagField).map Text.compact ++
            line.featherFields.map Text.compact).flatMap fun field => delimiter :: field := by
    rw [toText, fields, intercalate_delimiter, Text.compact_append, compact_flatMap_delimiter,
      List.map_append]
  rw [characters, characters, compact_featherFields_trimmed]
  rfl

end ActionLine

namespace Lenient

open ActionLine

/-- A line in the form that readers give, with something to read behind its frame count: a tag, no
blank among its keys, and numbers in range.  The angle is written with digits and points, and there
may be blanks around the magnitude. -/
structure Legible (line : ActionLine) : Prop extends ActionLine.WellFormed line where
  counted : line.Framed
  tagged : line.held.tags ≠ []
  visible : line.keys.Visible
  angle : ∀ text, line.angle = some text →
    Range.angle.Within text ∧ ∀ char ∈ text, isNumberChar char = true
  magnitude : ∀ text, line.magnitude = some text →
    text = [] ∨ Range.magnitude.Within (Text.trim text)

variable {line : ActionLine}

theorem Legible.numeral_magnitude (legible : Legible line) {text : Text}
    (given : line.trimmed.magnitude = some text) : Number.NumeralText text := by
  obtain ⟨before, present, rfl⟩ := Option.map_eq_some_iff.1 given
  rcases legible.magnitude before present with rfl | within
  · exact fun char member => absurd member List.not_mem_nil
  · exact within.admits.numeral

theorem Legible.divisible (legible : Legible line) : line.trimmed.Divisible where
  counted := legible.counted
  typed := legible.typed
  numeral := by
    rintro text (angle | magnitude)
    · exact (legible.angle text angle).1.admits.numeral
    · exact legible.numeral_magnitude magnitude

/-- The characters of a numeral are passed over in the place of a tag. -/
theorem foldlM_numeral {text : Text} (numeral : Number.NumeralText text) (count : FrameCount)
    (start : ActionLine) :
    text.foldlM step ⟨.tag, count, start⟩ = .ok ⟨.tag, count, start⟩ := by
  induction text with
  | nil => rfl
  | cons first rest ih =>
      have unknown := Number.ofChar?_of_isNumeralChar (numeral first (by simp))
      have passed : step ⟨.tag, count, start⟩ first = .ok ⟨.tag, count, start⟩ := by
        simp only [step, dispatch, takeTag, unknown]
        split <;> rfl
      rw [foldlM_cons_of_ok passed]
      exact ih fun other member => numeral other (by simp [member])

theorem Legible.collected_angle (legible : Legible line) :
    collected (line.angle.getD []) = line.angle := by
  cases given : line.angle with
  | none => rfl
  | some text =>
      rw [Option.getD_some, collected, if_neg (legible.angle text given).1.admits.ne_nil]

theorem Legible.angleChars (legible : Legible line) :
    ∀ char ∈ line.angle.getD [], isNumberChar char = true := by
  cases given : line.angle with
  | none => exact fun char member => absurd member List.not_mem_nil
  | some text => exact (legible.angle text given).2

/-- Behind the delimiter that follows the feather, the angle is collected as a magnitude. -/
theorem Legible.foldlM_angle (legible : Legible line) (count : FrameCount) {start : ActionLine}
    (unnumbered : start.magnitude = none) :
    (delimiter :: line.angle.getD []).foldlM step ⟨.angle, count, start⟩ =
      .ok ⟨.magnitude, count, { start with magnitude := line.angle }⟩ := by
  have ends : step ⟨.angle, count, start⟩ delimiter = .ok ⟨.magnitude, count, start⟩ := rfl
  rw [foldlM_cons_of_ok ends, foldlM_magnitudeChars legible.angleChars, unnumbered,
    foldl_extend_none, legible.collected_angle]

/-- The field of the magnitude is passed over. -/
theorem Legible.foldlM_magnitude (legible : Legible line) (count : FrameCount)
    (start : ActionLine) :
    ∃ last, last ≠ .frames ∧
      (line.trimmed.magnitude.toList.flatMap fun field => delimiter :: field).foldlM step
          ⟨.magnitude, count, start⟩ =
        .ok ⟨last, count, start⟩ := by
  cases given : line.trimmed.magnitude with
  | none => exact ⟨.magnitude, by simp, rfl⟩
  | some text =>
      refine ⟨.tag, by simp, ?_⟩
      have ends : step ⟨.magnitude, count, start⟩ delimiter = .ok ⟨.tag, count, start⟩ := rfl
      rw [Option.toList_some, List.flatMap_singleton, foldlM_cons_of_ok ends]
      exact foldlM_numeral (legible.numeral_magnitude given) count start

/-- The characters behind the tags leave the angle in the place of the magnitude. -/
theorem Legible.foldlM_featherFields (legible : Legible line) {mode : Mode} (count : FrameCount)
    (shape : if line.held.contains (.tag .feather) then mode = .angle else EndsField mode)
    {start : ActionLine} (unnumbered : start.magnitude = none) :
    ∃ last, last ≠ .frames ∧
      (line.trimmed.featherFields.flatMap fun field => delimiter :: field).foldlM step
          ⟨mode, count, start⟩ =
        .ok ⟨last, count, { start with magnitude := line.angle }⟩ := by
  rw [featherFields, trimmed_held, trimmed_angle]
  cases feather : line.held.contains (.tag .feather) with
  | false =>
      rw [feather] at shape
      have missing : line.angle = none := by
        by_contra given
        rw [legible.feathered (Or.inl given)] at feather
        cases feather
      rw [missing, ← unnumbered]
      exact ⟨mode, shape.1, rfl⟩
  | true =>
      rw [feather, if_pos rfl] at shape
      subst shape
      obtain ⟨last, started, passed⟩ :=
        legible.foldlM_magnitude count { start with magnitude := line.angle }
      refine ⟨last, started, ?_⟩
      rw [if_pos rfl, List.flatMap_cons,
        foldlM_append_of_ok (legible.foldlM_angle count unnumbered), passed]

theorem Legible.settle_angle (legible : Legible line) (tolerant : Bool) :
    settle tolerant Range.angle .invalidAngle line.angle =
      .ok (line.angle.bind Range.angle.clampValue?) := by
  cases given : line.angle with
  | none => rfl
  | some text =>
      obtain ⟨number, _, _, _, clamped⟩ := (legible.angle text given).1.clampValue?_eq
      rw [settle, Option.bind_some, clamped]

/-- At the end the number in the place of the magnitude becomes the angle. -/
theorem Legible.finish (legible : Legible line) (tolerant : Bool) {last : Mode}
    (started : last ≠ .frames) (count : FrameCount) {start : ActionLine}
    (unnumbered : start.angle = none) :
    finish tolerant ⟨last, count, { start with magnitude := line.angle }⟩ =
      .ok { start with
        angle := line.angle.bind Range.angle.clampValue?, magnitude := none } := by
  have promoted : promote { start with magnitude := line.angle } =
      { start with angle := line.angle, magnitude := none } := by
    rw [promote, unnumbered]
    rfl
  refine finish_of_settled started ?_ ?_
  · rw [promoted]
    exact legible.settle_angle tolerant
  · rw [promoted]
    rfl

/-- The tags write all of the line but its numbers. -/
theorem Legible.core_eq (legible : Legible line) :
    line.trimmed.core line.trimmed.keys.compacted =
      { line with angle := none, magnitude := none } := by
  have written : line.trimmed.core line.trimmed.keys.compacted =
      { line with angle := none, magnitude := none, keys := line.keys.compacted } :=
    legible.consistent.core_eq (Text.compact_sublist _)
  rw [written, legible.typed.compacted_eq_iff.2 legible.visible]

theorem Legible.read_toText (legible : Legible line) (tolerant : Bool) :
    read tolerant line.toText =
      .ok { line with
        angle := line.angle.bind Range.angle.clampValue?, magnitude := none } := by
  obtain ⟨mode, count, shape, scanned⟩ := foldlM_toText legible.divisible legible.tagged
  rw [legible.core_eq] at scanned
  have unnumbered : { line with angle := none, magnitude := none }.magnitude = none := rfl
  obtain ⟨last, started, behind⟩ := legible.foldlM_featherFields count shape unnumbered
  rw [read, ← compact_toText_trimmed, scanned, behind]
  exact legible.finish tolerant started count rfl

/-- The line is kept whole exactly when it has no magnitude and its angle is written plainly. -/
theorem Legible.kept_iff (legible : Legible line) :
    { line with angle := line.angle.bind Range.angle.clampValue?, magnitude := none } = line ↔
      line.magnitude = none ∧ ∀ text, line.angle = some text → Number.Rendered text := by
  constructor
  · intro same
    refine ⟨(congrArg ActionLine.magnitude same).symm, fun text given => ?_⟩
    have angle := congrArg ActionLine.angle same
    dsimp only at angle
    rw [given, Option.bind_some] at angle
    exact (Range.proper_angle.clampValue?_eq_self_iff (legible.angle text given).1).1 angle
  · rintro ⟨missing, rendered⟩
    have angle : line.angle.bind Range.angle.clampValue? = line.angle := by
      cases given : line.angle with
      | none => rfl
      | some text =>
          exact (Range.proper_angle.clampValue?_eq_self_iff (legible.angle text given).1).2
            (rendered text given)
    rw [angle, ← missing]

/-- A lenient reading of the canonical text of a legible line gives the line with its angle written
anew and without its magnitude, whether invalid numbers are tolerated or not.  So it gives the line
itself exactly when there is no magnitude and the angle is written plainly. -/
theorem read_toText_of_legible (line : ActionLine) (legible : Legible line) (tolerant : Bool) :
    read tolerant line.toText =
        .ok { line with
          angle := line.angle.bind Range.angle.clampValue?, magnitude := none } ∧
      (read tolerant line.toText = .ok line ↔
        line.magnitude = none ∧ ∀ text, line.angle = some text → Number.Rendered text) := by
  refine ⟨legible.read_toText tolerant, ?_⟩
  rw [legible.read_toText tolerant, Except.ok.injEq]
  exact legible.kept_iff

/-- An angle with zeros around it, and a magnitude with a power of ten and a blank in front. -/
theorem read_toText_of_legible_zeros :
    let line : ActionLine :=
      ⟨12, ⟨83952130⟩, some "045.0".toList, some " 5e-1".toList, .ofText "AB".toList⟩
    line.toText = "  12,R,AL,PAB,F,045.0, 5e-1".toList ∧
      read false line.toText =
        .ok ⟨12, ⟨83952130⟩, some "45".toList, none, .ofText "AB".toList⟩ := by
  have found : Delimited.read true "12,r,al,pab,f,045.0,5e-1".toList =
      .ok ⟨12, ⟨83952130⟩, some "045.0".toList, some "5e-1".toList, .ofText "AB".toList⟩ := by
    decide +kernel
  have form := Delimited.wellFormed_of_read found
  have legible : Legible ⟨12, ⟨83952130⟩, some "045.0".toList, some " 5e-1".toList,
      .ofText "AB".toList⟩ := by
    refine ⟨⟨form.named, form.opened, fun _ => form.feathered (by simp),
      fun _ => form.angled (by simp), form.keyed, form.typed⟩, ⟨12, rfl, by decide⟩,
      by decide +kernel, form.typed.compacted_eq_iff.1 (by decide +kernel), ?_, ?_⟩
    · intro text given
      cases given
      exact ⟨form.angle _ rfl, List.all_eq_true.1 (by decide)⟩
    · intro text given
      cases given
      exact Or.inr ((form.magnitude _ rfl).resolve_left (by decide))
  refine ⟨by decide +kernel, (read_toText_of_legible _ legible false).1.trans ?_⟩
  decide +kernel

end Lenient

end FrameScript
