import FrameScript.Proofs.ActionLine.Canonical
import Mathlib.Control.Monad.Basic

/-!
# Reading canonical texts back

The canonical text of a line that was read is read field by field: the tags give what they write,
then the numbers of the feather follow.  What comes back is the line without its kept texts that are
no numbers and without the blanks that end its keys.
-/

namespace FrameScript

open Number (Range)

namespace FrameCount

theorem checked_ofNat {frames : Nat} (fits : (Text.ofNat frames).length ≤ digitLimit) :
    (ofDigits (Text.ofNat frames)).checked = .ok frames := by
  have value : (ofDigits (Text.ofNat frames)).value = frames := by
    rw [ofDigits_value]
    exact Nat.ofDigitChars_ten_toDigits
  have within : ¬digitLimit < (ofDigits (Text.ofNat frames)).digits := by
    rw [ofDigits_digits]
    omega
  rw [checked, if_neg within, value]

theorem read?_ofNat {frames : Nat} (fits : (Text.ofNat frames).length ≤ digitLimit) :
    read? (Text.ofNat frames) = .ok (some frames) := by
  have isDigits : (Text.ofNat frames).isDigits = true :=
    Text.isDigits_iff.2 ⟨Text.ofNat_ne_nil frames, fun digit => Text.isDigit_of_mem_ofNat⟩
  rw [read?, if_pos isDigits, checked_ofNat fits]
  rfl

end FrameCount

/-- The tag of the feather is written last. -/
theorem Held.tags_eq (held : Held) :
    held.tags =
      (Tag.all.dropLast.filter fun tag => held.contains (.tag tag)) ++
        if held.contains (.tag .feather) then [.feather] else [] := by
  have parts : held.tags =
      (Tag.all.dropLast ++ [Tag.feather]).filter fun tag => held.contains (.tag tag) := rfl
  rw [parts, List.filter_append]
  cases feather : held.contains (.tag .feather) with
  | false => simp [feather]
  | true => simp [feather]

namespace Delimited

open ActionLine

theorem step_letter (tolerant : Bool) (start : ActionLine) (tag : Tag) (list : Text) :
    step tolerant ⟨.tag, start⟩ (tag.letter :: list) =
      .ok ⟨expectedAfter tag, holdTag start tag list⟩ := by
  simp only [step, takeTag, Tag.ofChar?_letter]

theorem foldlM_tagFields (tolerant : Bool) (line : ActionLine) (keys : Text) {tags : List Tag}
    (plain : ∀ tag ∈ tags, expectedAfter tag = .tag) (start : ActionLine) :
    (tags.map fun tag => tag.letter :: line.tagList keys tag).foldlM (step tolerant)
        ⟨.tag, start⟩ =
      .ok ⟨.tag, tags.foldl (line.holdFrom keys) start⟩ := by
  induction tags generalizing start with
  | nil => rfl
  | cons first rest ih =>
      rw [List.map_cons, List.foldlM_cons, step_letter, plain first (by simp)]
      exact ih (fun tag member => plain tag (by simp [member])) _

/-- What is expected after the tags of a line. -/
def expectedAfterTags (line : ActionLine) : Expected :=
  if line.held.contains (.tag .feather) then .angle else .tag

/-- The fields of the tags of a line are read as what they write. -/
theorem foldlM_tags (tolerant : Bool) (line : ActionLine) (keys : Text) :
    (line.held.tags.map fun tag => tag.letter :: line.tagList keys tag).foldlM (step tolerant)
        ⟨.tag, { frames := line.frames }⟩ =
      .ok ⟨expectedAfterTags line, line.core (.ofText keys)⟩ := by
  have plain : ∀ tag ∈ Tag.all.dropLast.filter fun tag => line.held.contains (.tag tag),
      expectedAfter tag = .tag := by
    have every : ∀ tag ∈ Tag.all.dropLast, expectedAfter tag = .tag := by decide
    exact fun tag member => every tag (List.mem_filter.1 member).1
  rw [← foldl_holdFrom_tags, Held.tags_eq, List.map_append, List.foldlM_append,
    foldlM_tagFields tolerant line keys plain, List.foldl_append, expectedAfterTags]
  cases held : line.held.contains (.tag .feather) with
  | false => rfl
  | true =>
      exact step_letter tolerant _ .feather []

/-- Reading a canonical text comes down to the fields behind the tag of the feather. -/
theorem read_toText_eq (tolerant : Bool) {line : ActionLine} (divisible : line.Divisible) :
    read tolerant line.toText =
      (line.featherFields.foldlM (step tolerant)
        ⟨expectedAfterTags line, line.core line.keys.readBack⟩ >>= finish tolerant).mapError
        .rejected := by
  obtain ⟨frames, natural, fits⟩ := divisible.counted
  rw [read, divisible.fieldsOf_toText natural]
  simp only [List.headD_cons, FrameCount.read?_ofNat fits, List.tail_cons, readFields]
  rw [List.foldlM_append, ← natural, foldlM_tags]
  rfl

end Delimited

namespace ActionLine

variable {source : Text} {line : ActionLine}

/-- A line with the feather but without a number for it. -/
def Bare (line : ActionLine) : Prop :=
  line.held.contains (.tag .feather) = true ∧ line.angle = none

/-- The angle of a line, if it is a number. -/
def settledAngle (line : ActionLine) : Option Text :=
  line.angle.filter fun text => (Number.read? text).isSome

/-- The magnitude of a line, if it stands behind a number and is empty or a number. -/
def settledMagnitude (line : ActionLine) : Option Text :=
  line.settledAngle.bind fun _ =>
    line.magnitude.filter fun text => text.isEmpty || (Number.read? text).isSome

/-- What is read from the canonical text of a line that was read. -/
def readBack (line : ActionLine) : ActionLine :=
  { line with
    angle := line.settledAngle
    magnitude := line.settledMagnitude
    keys := line.keys.readBack }

theorem settledAngle_of_admits {angle : Text} (given : line.angle = some angle)
    (admitted : Range.angle.Admits angle) : line.settledAngle = some angle := by
  rw [settledAngle, given, Option.filter_some, if_pos admitted.read?_isSome]

theorem settledAngle_of_kept {angle : Text} (given : line.angle = some angle)
    (kept : Kept angle) : line.settledAngle = none := by
  rw [settledAngle, given, Option.filter_some, if_neg kept.not_isSome]

theorem settledMagnitude_of_admits {angle magnitude : Text}
    (settled : line.settledAngle = some angle) (given : line.magnitude = some magnitude)
    (admitted : magnitude = [] ∨ Range.magnitude.Admits magnitude) :
    line.settledMagnitude = some magnitude := by
  rw [settledMagnitude, settled, given, Option.bind_some, Option.filter_some, if_pos]
  rcases admitted with rfl | admitted
  · rfl
  · simp [admitted.read?_isSome]

theorem settledMagnitude_of_kept {angle magnitude : Text}
    (settled : line.settledAngle = some angle) (given : line.magnitude = some magnitude)
    (kept : Kept magnitude) : line.settledMagnitude = none := by
  rw [settledMagnitude, settled, given, Option.bind_some, Option.filter_some, if_neg]
  simp [kept.1, kept.2.1]

theorem settledMagnitude_of_none (missing : line.magnitude = none) :
    line.settledMagnitude = none := by
  rw [settledMagnitude, missing]
  cases line.settledAngle with
  | none => rfl
  | some angle => rfl

theorem settledMagnitude_of_unsettled (unsettled : line.settledAngle = none) :
    line.settledMagnitude = none := by
  rw [settledMagnitude, unsettled]
  rfl

theorem Parsed.magnitude_of_angle (parsed : line.Parsed source) (missing : line.angle = none) :
    line.magnitude = none := by
  cases magnitude : line.magnitude with
  | none => rfl
  | some text => exact absurd missing (parsed.angled (by simp [magnitude]))

theorem Parsed.missing_of_unfeathered (parsed : line.Parsed source)
    (closed : ¬line.held.contains (.tag .feather) = true) :
    line.angle = none ∧ line.magnitude = none := by
  have none : ¬(line.angle ≠ none ∨ line.magnitude ≠ none) := fun given =>
    closed (parsed.feathered given)
  simpa using none

/-- Numbers that are in range stay. -/
theorem Parsed.settled_of_inRange (parsed : line.Parsed source) (inRange : line.InRange) :
    line.settledAngle = line.angle ∧ line.settledMagnitude = line.magnitude := by
  cases angle : line.angle with
  | none =>
      have unsettled : line.settledAngle = none := by rw [settledAngle, angle]; rfl
      rw [settledMagnitude_of_unsettled unsettled, parsed.magnitude_of_angle angle]
      exact ⟨unsettled, rfl⟩
  | some text =>
      have settled := settledAngle_of_admits angle (inRange.angle text angle)
      refine ⟨settled, ?_⟩
      cases magnitude : line.magnitude with
      | none => exact settledMagnitude_of_none magnitude
      | some other =>
          exact settledMagnitude_of_admits settled magnitude (inRange.magnitude other magnitude)

theorem Parsed.readBack_of_inRange (parsed : line.Parsed source) (inRange : line.InRange) :
    line.readBack = { line with keys := line.keys.readBack } := by
  rw [readBack, (parsed.settled_of_inRange inRange).1, (parsed.settled_of_inRange inRange).2]

/-- A line that was read is read back exactly when its numbers are numbers and its greatest key is
not a blank. -/
theorem Parsed.readBack_eq_iff (parsed : line.Parsed source) :
    line.readBack = line ↔ line.Numeric ∧ line.keys.EndsVisibly := by
  rw [← parsed.written.typed.readBack_eq_iff]
  constructor
  · intro same
    have angles : line.settledAngle = line.angle := congrArg ActionLine.angle same
    have magnitudes : line.settledMagnitude = line.magnitude := congrArg ActionLine.magnitude same
    refine ⟨?_, congrArg ActionLine.keys same⟩
    rintro text (angle | magnitude) given
    · rcases parsed.angle text angle with admitted | kept
      · exact admitted.read?_isSome
      · rw [settledAngle_of_kept angle kept, angle] at angles
        cases angles
    · rcases parsed.magnitude text magnitude with rfl | admitted | kept
      · exact absurd rfl given
      · exact admitted.read?_isSome
      · cases settled : line.settledAngle with
        | none =>
            rw [settledMagnitude_of_unsettled settled, magnitude] at magnitudes
            cases magnitudes
        | some angle =>
            rw [settledMagnitude_of_kept settled magnitude kept, magnitude] at magnitudes
            cases magnitudes
  · rintro ⟨numeric, keys⟩
    rw [parsed.readBack_of_inRange (parsed.inRange numeric), keys]

theorem Kept.numeral {text : Text} (kept : Kept text) : Number.NumeralText text :=
  numeralText_of_numberChars kept.2.2

theorem Kept.clampText? {text : Text} (kept : Kept text) (range : Range) :
    range.clampText? text = none := by
  rw [Range.clampText?, kept.2.1]
  rfl

end ActionLine

namespace Delimited

open ActionLine

variable {source : Text} {line : ActionLine}

/-- No character of a numeral is the letter of a tag. -/
theorem takeTag_of_numeral {text : Text} (numeral : Number.NumeralText text) (start : ActionLine) :
    takeTag start text = ⟨.tag, start⟩ := by
  cases text with
  | nil => rfl
  | cons first rest =>
      rw [takeTag, Number.ofChar?_of_isNumeralChar (numeral first (by simp))]

theorem step_angle_of_admits (tolerant : Bool) (start : ActionLine) {text : Text}
    (admitted : Range.angle.Admits text) :
    step tolerant ⟨.angle, start⟩ text = .ok ⟨.magnitude, { start with angle := some text }⟩ := by
  simp only [step, admitted.clampText?_eq]

theorem step_angle_of_kept (start : ActionLine) {text : Text} (kept : Kept text) :
    step true ⟨.angle, start⟩ text = .ok ⟨.tag, start⟩ := by
  have given : text.isEmpty = false := by simp [kept.1]
  simp only [step, kept.clampText?, given, retake, takeTag_of_numeral kept.numeral, if_true]
  rfl

theorem step_magnitude_of_admits (tolerant : Bool) (start : ActionLine) {text : Text}
    (admitted : text = [] ∨ Range.magnitude.Admits text) :
    step tolerant ⟨.magnitude, start⟩ text =
      .ok ⟨.tag, { start with magnitude := some text }⟩ := by
  rcases admitted with rfl | admitted
  · rfl
  · have given : text.isEmpty = false := by simp [admitted.ne_nil]
    simp only [step, given, admitted.clampText?_eq]
    rfl

theorem step_magnitude_of_kept (start : ActionLine) {text : Text} (kept : Kept text) :
    step true ⟨.magnitude, start⟩ text = .ok ⟨.tag, start⟩ := by
  have given : text.isEmpty = false := by simp [kept.1]
  simp only [step, kept.clampText?, given, retake, takeTag_of_numeral kept.numeral, if_true]
  rfl

/-- The field behind an angle that was read is read as the magnitude, if it is one. -/
theorem foldlM_magnitude (parsed : line.Parsed source) {tolerant : Bool}
    (allowed : tolerant = true ∨ line.InRange) {angle : Text}
    (settled : line.settledAngle = some angle) (frames : Int) (held : Held) (keys : KeySet) :
    ∃ expected, expected ≠ .shiftedAngle ∧
      line.magnitude.toList.foldlM (step tolerant)
          ⟨.magnitude, ⟨frames, held, some angle, none, keys⟩⟩ =
        .ok ⟨expected, ⟨frames, held, some angle, line.settledMagnitude, keys⟩⟩ := by
  cases magnitude : line.magnitude with
  | none =>
      rw [settledMagnitude_of_none magnitude]
      exact ⟨.magnitude, by simp, rfl⟩
  | some text =>
      refine ⟨.tag, by simp, ?_⟩
      rw [Option.toList_some]
      rcases or_assoc.2 (parsed.magnitude text magnitude) with admitted | kept
      · rw [foldlM_cons_of_ok (step_magnitude_of_admits tolerant _ admitted),
          settledMagnitude_of_admits settled magnitude admitted]
        rfl
      · obtain rfl : tolerant = true := allowed.resolve_right fun inRange =>
          kept.not_isSome (inRange.numeric text (Or.inr magnitude) kept.1)
        rw [foldlM_cons_of_ok (step_magnitude_of_kept _ kept),
          settledMagnitude_of_kept settled magnitude kept]
        rfl

/-- A magnitude behind an angle that was not read is passed over. -/
theorem foldlM_passed (parsed : line.Parsed source) (start : ActionLine) :
    line.magnitude.toList.foldlM (step true) ⟨.tag, start⟩ = .ok ⟨.tag, start⟩ := by
  cases magnitude : line.magnitude with
  | none => rfl
  | some text =>
      have numeral := parsed.divisible.numeral text (Or.inr magnitude)
      have passed : step true ⟨.tag, start⟩ text = .ok ⟨.tag, start⟩ :=
        congrArg Except.ok (takeTag_of_numeral numeral start)
      rw [Option.toList_some, foldlM_cons_of_ok passed]
      rfl

/-- The fields behind the tag of the feather are read as the numbers among them.  With invalid
numbers rejected, all of them have to be numbers and there has to be one. -/
theorem foldlM_featherFields (parsed : line.Parsed source)
    (feather : line.held.contains (.tag .feather) = true) {tolerant : Bool}
    (allowed : tolerant = true ∨ line.InRange ∧ ¬line.Bare) (frames : Int) (held : Held)
    (keys : KeySet) :
    ∃ expected, (expected = .shiftedAngle → tolerant = true) ∧
      line.featherFields.foldlM (step tolerant) ⟨.angle, { frames, held, keys }⟩ =
        .ok ⟨expected, ⟨frames, held, line.settledAngle, line.settledMagnitude, keys⟩⟩ := by
  rw [featherFields, if_pos feather]
  cases angle : line.angle with
  | none =>
      have unsettled : line.settledAngle = none := by rw [settledAngle, angle]; rfl
      refine ⟨.shiftedAngle, fun _ => ?_, ?_⟩
      · exact allowed.resolve_right fun strict => strict.2 ⟨feather, angle⟩
      · rw [unsettled, settledMagnitude_of_unsettled unsettled, parsed.magnitude_of_angle angle]
        rfl
  | some text =>
      rw [Option.getD_some]
      rcases parsed.angle text angle with admitted | kept
      · have settled := settledAngle_of_admits angle admitted
        obtain ⟨expected, other, scanned⟩ :=
          foldlM_magnitude parsed (allowed.imp_right And.left) settled frames held keys
        refine ⟨expected, fun shifted => absurd shifted other, ?_⟩
        rw [foldlM_cons_of_ok (step_angle_of_admits tolerant _ admitted), scanned, settled]
      · have unsettled := settledAngle_of_kept angle kept
        obtain rfl : tolerant = true := allowed.resolve_right fun strict =>
          kept.not_isSome (strict.1.numeric text (Or.inl angle) kept.1)
        refine ⟨.tag, fun _ => rfl, ?_⟩
        rw [foldlM_cons_of_ok (step_angle_of_kept _ kept), foldlM_passed parsed, unsettled,
          settledMagnitude_of_unsettled unsettled]

/-- The canonical text of a line that was read is read as what can be read back of the line. -/
theorem read_toText (parsed : line.Parsed source) {tolerant : Bool}
    (allowed : tolerant = true ∨ line.InRange ∧ ¬line.Bare) :
    read tolerant line.toText = .ok line.readBack := by
  have core : line.core line.keys.readBack =
      { line with angle := none, magnitude := none, keys := line.keys.readBack } :=
    parsed.core_eq (Text.trimEnd_sublist _)
  rw [read_toText_eq tolerant parsed.divisible, core, expectedAfterTags]
  cases feather : line.held.contains (.tag .feather) with
  | false =>
      have missing := parsed.missing_of_unfeathered (by simp [feather])
      have unsettled : line.settledAngle = none := by rw [settledAngle, missing.1]; rfl
      rw [featherFields, feather, readBack, settledMagnitude_of_unsettled unsettled, unsettled]
      rfl
  | true =>
      obtain ⟨expected, shifted, scanned⟩ :=
        foldlM_featherFields parsed feather allowed line.frames line.held line.keys.readBack
      have finished : finish tolerant ⟨expected, line.readBack⟩ = .ok line.readBack := by
        rw [finish, if_neg]
        rintro ⟨same, intolerant⟩
        rw [shifted same] at intolerant
        cases intolerant
      rw [if_pos rfl, scanned]
      exact congrArg (Except.mapError _) finished

/-- With invalid numbers rejected, the text of a feather without a number is rejected. -/
theorem read_toText_of_bare (parsed : line.Parsed source) (bare : line.Bare) :
    read false line.toText = .error (.rejected (.invalidAngle [])) := by
  rw [read_toText_eq false parsed.divisible, featherFields, expectedAfterTags, if_pos bare.1,
    if_pos bare.1, bare.2, parsed.magnitude_of_angle bare.2]
  rfl

end Delimited

/-! ## Round trips -/

namespace ActionLine

/-- A line that either reader gave, and whose numbers are numbers, is read back from its canonical
text exactly when it has no keys or its greatest key is not a blank.  That is always so for a line
that was read leniently. -/
theorem read_toText_iff_endsVisibly (tolerant : Bool) (text : Text) (line : ActionLine)
    (found : Delimited.read tolerant text = .ok line ∨ Lenient.read tolerant text = .ok line)
    (numeric : line.Numeric) :
    (Delimited.read true line.toText = .ok line ↔ line.keys.EndsVisibly) ∧
      (Lenient.read tolerant text = .ok line →
        line.keys.EndsVisibly ∧ Delimited.read true line.toText = .ok line) := by
  have exact : Delimited.read true line.toText = .ok line ↔ line.keys.EndsVisibly := by
    obtain ⟨source, parsed⟩ : ∃ source, line.Parsed source := by
      rcases found with delimited | lenient
      · exact ⟨_, (Delimited.parsed_of_read delimited).1⟩
      · exact ⟨_, (Lenient.parsed_of_read lenient).1⟩
    rw [Delimited.read_toText parsed (Or.inl rfl), Except.ok.injEq, parsed.readBack_eq_iff]
    exact and_iff_right numeric
  refine ⟨exact, fun lenient => ?_⟩
  have ends := (Lenient.visible_of_read lenient).endsVisibly
  exact ⟨ends, exact.2 ends⟩

/-- A line with a blank among its keys that is not the greatest, and both numbers. -/
theorem read_toText_of_inner_blank :
    let line : ActionLine :=
      ⟨3, ⟨67109378⟩, some "90".toList, some ".5".toList, .ofText " AB".toList⟩
    Delimited.read false "3,F,90,.5,Pb a,r".toList = .ok line ∧
      Delimited.read true line.toText = .ok line := by
  have found : Delimited.read false "3,F,90,.5,Pb a,r".toList =
      .ok ⟨3, ⟨67109378⟩, some "90".toList, some ".5".toList, .ofText " AB".toList⟩ := by
    decide +kernel
  have inRange := (Delimited.parsed_of_read found).2
  have keys : (KeySet.ofText " AB".toList).keys = [[' '], ['A']] ++ [['B']] := by decide +kernel
  have trip := read_toText_iff_endsVisibly false _ _ (Or.inl found) inRange.numeric
  exact ⟨found, trip.1.2 (KeySet.endsVisibly_of_last keys (by decide))⟩

end ActionLine

end FrameScript
