import FrameScript.Proofs.ActionLine.RoundTrip

/-!
# Rereading

What the two readers in turn make of the canonical text of a line that was read.  With invalid
numbers rejected, the text of a feather without a number is rejected as a delimited line and read
leniently, which takes the same tags from it but no blank.  So a line is reread as itself exactly
when it is stable: its numbers are numbers, its greatest key is not a blank, and no key of it is a
blank if its text is going to be read leniently.
-/

namespace FrameScript

open Number (Range)

namespace Lenient

open ActionLine

theorem foldlM_digits {text : Text} (digits : ∀ char ∈ text, char.isDigit = true)
    (count : FrameCount) (line : ActionLine) :
    text.foldlM step ⟨.frames, count, line⟩ =
      .ok ⟨.frames, text.foldl FrameCount.push count, line⟩ := by
  induction text generalizing count with
  | nil => rfl
  | cons first rest ih =>
      have taken : step ⟨.frames, count, line⟩ first =
          .ok ⟨.frames, count.push first, line⟩ := by
        simp only [step, dispatch, digits first (by simp), if_true]
        rfl
      rw [foldlM_cons_of_ok taken]
      exact ih (fun char member => digits char (by simp [member])) _

/-- The modes in which a delimiter ends what came before and a tag follows. -/
def EndsField (mode : Mode) : Prop := mode ≠ .frames ∧ mode ≠ .angle

theorem step_delimiter {mode : Mode} (ends : EndsField mode) (count : FrameCount)
    (line : ActionLine) : step ⟨mode, count, line⟩ delimiter = .ok ⟨.tag, count, line⟩ := by
  cases mode with
  | frames => exact absurd rfl ends.1
  | angle => exact absurd rfl ends.2
  | tag => rfl
  | only _ => rfl
  | keys => rfl
  | magnitude => rfl

theorem takeTag_letter (mode : Mode) (count : FrameCount) (line : ActionLine) (tag : Tag) :
    takeTag ⟨mode, count, line⟩ tag.letter = ⟨modeAfter tag, count, line.hold tag⟩ := by
  simp only [takeTag, if_neg (letter_ne_delimiter tag), Tag.ofChar?_letter]

theorem step_letter (count : FrameCount) (line : ActionLine) (tag : Tag) :
    step ⟨.tag, count, line⟩ tag.letter = .ok ⟨modeAfter tag, count, line.hold tag⟩ :=
  congrArg Except.ok (takeTag_letter .tag count line tag)

/-- The first tag ends the frame count. -/
theorem step_letter_of_frames {count : FrameCount} {frames : Nat} (given : count.digits ≠ 0)
    (converted : count.checked = .ok frames) (line : ActionLine) (tag : Tag) :
    step ⟨.frames, count, line⟩ tag.letter =
      .ok ⟨modeAfter tag, count, ActionLine.hold { line with frames } tag⟩ := by
  have notDigit : tag.letter.isDigit = false := by
    have range := tag.letter_range
    rw [Bool.eq_false_iff, ne_eq, Number.isDigit_iff]
    omega
  have handed : dispatch ⟨.frames, count, line⟩ tag.letter =
      .ok (.handedOver ⟨.tag, count, { line with frames }⟩) := by
    simp only [dispatch, notDigit, if_neg (letter_ne_delimiter tag), if_neg given, converted]
    rfl
  rw [step, handed]
  exact congrArg Except.ok (takeTag_letter .tag count _ tag)

theorem foldlM_directions (restriction : Restriction) (count : FrameCount)
    (directions : List Direction) (line : ActionLine) :
    (directions.map fun direction => (Tag.direction direction).letter).foldlM step
        ⟨.only restriction, count, line⟩ =
      .ok ⟨.only restriction, count,
        (directions.map fun direction => (Tag.direction direction).letter).foldl
          (Delimited.holdRestricted restriction) line⟩ := by
  induction directions generalizing line with
  | nil => rfl
  | cons first rest ih =>
      have taken : step ⟨.only restriction, count, line⟩ (Tag.direction first).letter =
          .ok ⟨.only restriction, count, line.hold (.restricted restriction first)⟩ := by
        simp only [step, dispatch, if_neg (letter_ne_delimiter _), Tag.ofChar?_letter]
        rfl
      rw [List.map_cons, foldlM_cons_of_ok taken, ih, List.foldl_cons, holdRestricted_letter]

theorem foldlM_keys (count : FrameCount) {text : Text} (undivided : delimiter ∉ text)
    (line : ActionLine) :
    text.foldlM step ⟨.keys, count, line⟩ =
      .ok ⟨.keys, count,
        { line with
          keys := (text.map fun char => [keyOf char]).foldl KeySet.insert line.keys }⟩ := by
  induction text generalizing line with
  | nil => rfl
  | cons first rest ih =>
      have different : first ≠ delimiter := fun same => undivided (by simp [same])
      have taken : step ⟨.keys, count, line⟩ first =
          .ok ⟨.keys, count, { line with keys := line.keys.insert [keyOf first] }⟩ := by
        simp only [step, dispatch, if_neg different]
        rfl
      rw [foldlM_cons_of_ok taken, ih fun member => undivided (by simp [member])]
      rfl

section

variable (line : ActionLine) {keys : Text} (count : FrameCount)

/-- The list behind a tag is read as a delimited reading reads it, if no other keys were there. -/
theorem foldlM_tagList (undivided : delimiter ∉ keys) {start : ActionLine}
    (known : start.keys = ∅ ∨ start.keys = .ofText keys) (tag : Tag) :
    (line.tagList keys tag).foldlM step ⟨modeAfter tag, count, start.hold tag⟩ =
      .ok ⟨modeAfter tag, count, line.holdFrom keys start tag⟩ := by
  cases tag with
  | only restriction => exact foldlM_directions restriction count _ _
  | keys =>
      have read := foldlM_keys count undivided (start.hold (.tag .keys))
      have same : (start.hold (.tag .keys)).keys = start.keys := rfl
      rw [same, KeySet.foldl_insert_eq_ofText known] at read
      exact read
  | direction _ => rfl
  | button _ => rfl
  | feather => rfl

theorem known_holdFrom {start : ActionLine} (known : start.keys = ∅ ∨ start.keys = .ofText keys)
    (tag : Tag) :
    (line.holdFrom keys start tag).keys = ∅ ∨
      (line.holdFrom keys start tag).keys = .ofText keys := by
  rw [holdFrom_keys]
  split
  · exact Or.inr rfl
  · exact known

theorem foldlM_field (undivided : delimiter ∉ keys) {mode : Mode} (ends : EndsField mode)
    {start : ActionLine} (known : start.keys = ∅ ∨ start.keys = .ofText keys) (tag : Tag) :
    (delimiter :: tag.letter :: line.tagList keys tag).foldlM step ⟨mode, count, start⟩ =
      .ok ⟨modeAfter tag, count, line.holdFrom keys start tag⟩ := by
  rw [foldlM_cons_of_ok (step_delimiter ends count start),
    foldlM_cons_of_ok (step_letter count start tag), foldlM_tagList line count undivided known tag]

theorem foldlM_append_of_ok {first second : Text} {scan next : Scan}
    (taken : first.foldlM step scan = .ok next) :
    (first ++ second).foldlM step scan = second.foldlM step next := by
  rw [List.foldlM_append, taken]
  rfl

/-- The fields of tags other than the feather are read one after the other. -/
theorem foldlM_fields (undivided : delimiter ∉ keys) {tags : List Tag}
    (plain : ∀ tag ∈ tags, EndsField (modeAfter tag))
    {mode : Mode} (ends : EndsField mode) {start : ActionLine}
    (known : start.keys = ∅ ∨ start.keys = .ofText keys) :
    ∃ last, EndsField last ∧
      (tags.flatMap fun tag => delimiter :: tag.letter :: line.tagList keys tag).foldlM step
          ⟨mode, count, start⟩ =
        .ok ⟨last, count, tags.foldl (line.holdFrom keys) start⟩ ∧
      ((tags.foldl (line.holdFrom keys) start).keys = ∅ ∨
        (tags.foldl (line.holdFrom keys) start).keys = .ofText keys) := by
  induction tags generalizing mode start with
  | nil => exact ⟨mode, ends, rfl, known⟩
  | cons first rest ih =>
      obtain ⟨last, lastEnds, scanned, lastKnown⟩ :=
        ih (fun tag member => plain tag (by simp [member])) (plain first (by simp))
          (known_holdFrom line known first)
      refine ⟨last, lastEnds, ?_, lastKnown⟩
      rw [List.flatMap_cons,
        foldlM_append_of_ok (foldlM_field line count undivided ends known first), scanned]
      rfl

/-- The first tag that follows a frame count is read like any other. -/
theorem foldlM_fields_of_frames {count : FrameCount} {frames : Nat} (given : count.digits ≠ 0)
    (converted : count.checked = .ok frames) {tags : List Tag} (some : tags ≠ []) (rest : Text)
    (start : ActionLine) :
    ((tags.flatMap fun tag => delimiter :: tag.letter :: line.tagList keys tag) ++ rest).foldlM step
        ⟨.frames, count, start⟩ =
      ((tags.flatMap fun tag => delimiter :: tag.letter :: line.tagList keys tag) ++ rest).foldlM
        step ⟨.tag, count, { start with frames }⟩ := by
  cases tags with
  | nil => exact absurd rfl some
  | cons first others =>
      have passed : step ⟨.frames, count, start⟩ delimiter = .ok ⟨.frames, count, start⟩ := rfl
      have ends : EndsField .tag := ⟨by decide, by decide⟩
      simp only [List.flatMap_cons, List.cons_append]
      rw [foldlM_cons_of_ok passed,
        foldlM_cons_of_ok (step_letter_of_frames given converted start first),
        foldlM_cons_of_ok (step_delimiter ends count _),
        foldlM_cons_of_ok (step_letter count _ first)]

/-- The tags of a line are read as what they write. -/
theorem foldlM_tags (undivided : delimiter ∉ keys) :
    ∃ mode, (if line.held.contains (.tag .feather) then mode = .angle else EndsField mode) ∧
      (line.held.tags.flatMap fun tag => delimiter :: tag.letter :: line.tagList keys tag).foldlM
          step ⟨.tag, count, { frames := line.frames }⟩ =
        .ok ⟨mode, count, line.core (.ofText keys)⟩ := by
  have plain : ∀ tag ∈ Tag.all.dropLast.filter fun tag => line.held.contains (.tag tag),
      EndsField (modeAfter tag) := by
    have every : ∀ tag ∈ Tag.all.dropLast, modeAfter tag ≠ .frames ∧ modeAfter tag ≠ .angle := by
      decide
    exact fun tag member => every tag (List.mem_filter.1 member).1
  obtain ⟨last, ends, scanned, known⟩ := foldlM_fields line count undivided plain
    (⟨by decide, by decide⟩ : EndsField .tag)
    (Or.inl rfl : ({ frames := line.frames } : ActionLine).keys = ∅ ∨ _)
  rw [← foldl_holdFrom_tags, Held.tags_eq, List.flatMap_append, foldlM_append_of_ok scanned,
    List.foldl_append]
  cases line.held.contains (.tag .feather) with
  | false => exact ⟨last, ends, rfl⟩
  | true =>
      refine ⟨.angle, rfl, ?_⟩
      rw [if_pos rfl, List.flatMap_singleton, foldlM_field line count undivided ends known .feather]
      rfl

end

variable {source : Text} {line : ActionLine}

/-- A lenient reading of a canonical text comes down to the characters behind the tags. -/
theorem foldlM_toText (divisible : line.Divisible) (some : line.held.tags ≠ []) :
    ∃ mode count, (if line.held.contains (.tag .feather) then mode = .angle else EndsField mode) ∧
      (Text.compact line.toText).foldlM step {} =
        (line.featherFields.flatMap fun field => delimiter :: field).foldlM step
          ⟨mode, count, line.core line.keys.compacted⟩ := by
  obtain ⟨frames, natural, fits⟩ := divisible.counted
  have counted : (Text.ofNat frames).foldlM step {} =
      .ok ⟨.frames, .ofDigits (Text.ofNat frames), { frames := 0 }⟩ :=
    foldlM_digits (fun char => Text.isDigit_of_mem_ofNat) _ _
  have given : (FrameCount.ofDigits (Text.ofNat frames)).digits ≠ 0 := by
    rw [FrameCount.ofDigits_digits]
    exact fun none => Text.ofNat_ne_nil frames (List.length_eq_zero_iff.1 none)
  have undivided : delimiter ∉ Text.compact line.keys.concat := fun member =>
    divisible.typed.notMem_concat ((Text.compact_sublist _).subset member)
  obtain ⟨mode, shape, scanned⟩ :=
    foldlM_tags line (.ofDigits (Text.ofNat frames)) undivided
  refine ⟨mode, .ofDigits (Text.ofNat frames), shape, ?_⟩
  rw [divisible.compact_toText natural, foldlM_append_of_ok counted, List.flatMap_append,
    List.flatMap_map, foldlM_fields_of_frames line given (FrameCount.checked_ofNat fits) some]
  rw [natural] at scanned
  exact foldlM_append_of_ok scanned

/-- A feather without a number is read leniently as itself, without the blanks among its keys. -/
theorem read_toText_of_bare (parsed : line.Parsed source) (bare : line.Bare) (tolerant : Bool) :
    read tolerant line.toText = .ok { line with keys := line.keys.compacted } := by
  have core : line.core line.keys.compacted =
      { line with angle := none, magnitude := none, keys := line.keys.compacted } :=
    parsed.core_eq (Text.compact_sublist _)
  have fields : line.featherFields = [[]] := by
    rw [featherFields, if_pos bare.1, bare.2, parsed.magnitude_of_angle bare.2]
    rfl
  obtain ⟨mode, count, shape, scanned⟩ :=
    foldlM_toText parsed.divisible (List.ne_nil_of_mem (Held.mem_tags.2 bare.1))
  rw [if_pos bare.1] at shape
  subst shape
  rw [read, scanned, fields, core, bare.2, parsed.magnitude_of_angle bare.2]
  rfl

end Lenient

/-! ## Reading canonical texts in turn -/

namespace ActionLine

variable {source text : Text} {line : ActionLine} {tolerant : Bool}

theorem read_of_delimited (found : Delimited.read tolerant text = .ok line) :
    read tolerant text = .ok line := by
  rw [read, found]
  rfl

theorem read_of_rejected {reason : Rejection}
    (rejected : Delimited.read tolerant text = .error (.rejected reason)) :
    read tolerant text = Lenient.read tolerant text := by
  rw [read, rejected]
  rfl

/-- A line is read by the one reader, or by the other after the first has rejected it. -/
theorem read_cases (found : read tolerant text = .ok line) :
    Delimited.read tolerant text = .ok line ∨
      (∃ reason, Delimited.read tolerant text = .error (.rejected reason)) ∧
        Lenient.read tolerant text = .ok line := by
  cases delimited : Delimited.read tolerant text with
  | ok other =>
      rw [read_of_delimited delimited] at found
      exact Or.inl found
  | error refusal =>
      cases refusal with
      | rejected reason =>
          rw [read_of_rejected delimited] at found
          exact Or.inr ⟨⟨reason, rfl⟩, found⟩
      | overlong fault =>
          rw [read, delimited] at found
          cases found

theorem parsed_of_read (found : read tolerant text = .ok line) :
    (∃ source, source.Sublist text ∧ line.Parsed source) ∧ (tolerant = false → line.InRange) := by
  rcases read_cases found with delimited | ⟨_, lenient⟩
  · have parsed := Delimited.parsed_of_read delimited
    exact ⟨⟨text, List.Sublist.refl text, parsed.1⟩, fun _ => parsed.2⟩
  · have parsed := Lenient.parsed_of_read lenient
    exact ⟨⟨_, Text.compact_sublist text, parsed.1⟩, parsed.2⟩

instance (line : ActionLine) : Decidable line.Bare := inferInstanceAs (Decidable (_ ∧ _))

/-- What is read from the canonical text of a line that was read, by the two readers in turn. -/
def reread (tolerant : Bool) (line : ActionLine) : ActionLine :=
  if tolerant = false ∧ line.Bare then { line with keys := line.keys.compacted } else line.readBack

/-- The canonical text of a line that was read with some tolerance can be read with the same. -/
theorem read_toText (parsed : line.Parsed source) (allowed : tolerant = true ∨ line.InRange) :
    read tolerant line.toText = .ok (line.reread tolerant) := by
  rw [reread]
  by_cases fallback : tolerant = false ∧ line.Bare
  · obtain ⟨rfl, bare⟩ := fallback
    rw [if_pos ⟨rfl, bare⟩, read_of_rejected (Delimited.read_toText_of_bare parsed bare)]
    exact Lenient.read_toText_of_bare parsed bare false
  · rw [if_neg fallback]
    apply read_of_delimited
    apply Delimited.read_toText parsed
    cases tolerant with
    | true => exact Or.inl rfl
    | false => exact Or.inr ⟨by simpa using allowed, fun bare => fallback ⟨rfl, bare⟩⟩

/-- A line that is reread as itself. -/
structure Stable (tolerant : Bool) (line : ActionLine) : Prop where
  numeric : line.Numeric
  ends : line.keys.EndsVisibly
  visible : tolerant = false → line.Bare → line.keys.Visible

theorem Parsed.reread_eq_iff (parsed : line.Parsed source) :
    line.reread tolerant = line ↔ line.Stable tolerant := by
  rw [reread]
  by_cases fallback : tolerant = false ∧ line.Bare
  · rw [if_pos fallback]
    constructor
    · intro same
      have visible : line.keys.Visible :=
        parsed.divisible.typed.compacted_eq_iff.1 (congrArg ActionLine.keys same)
      refine ⟨?_, visible.endsVisibly, fun _ _ => visible⟩
      rintro text (angle | magnitude)
      · rw [fallback.2.2] at angle
        cases angle
      · rw [parsed.magnitude_of_angle fallback.2.2] at magnitude
        cases magnitude
    · intro stable
      rw [parsed.divisible.typed.compacted_eq_iff.2 (stable.visible fallback.1 fallback.2)]
  · rw [if_neg fallback, parsed.readBack_eq_iff]
    constructor
    · rintro ⟨numeric, ends⟩
      exact ⟨numeric, ends, fun rejecting bare => absurd ⟨rejecting, bare⟩ fallback⟩
    · intro stable
      exact ⟨stable.numeric, stable.ends⟩

/-- A line whose numbers are in range and none of whose keys is a blank is stable. -/
theorem InRange.stable (inRange : line.InRange) (visible : line.keys.Visible) (tolerant : Bool) :
    line.Stable tolerant :=
  ⟨inRange.numeric, visible.endsVisibly, fun _ _ => visible⟩

/-- A line whose numbers are in range and none of whose keys is a blank is read back from its
canonical text, if need be leniently. -/
theorem Parsed.read_toText_of_visible (parsed : line.Parsed source) (inRange : line.InRange)
    (visible : line.keys.Visible) :
    (∀ tolerant, read tolerant line.toText = .ok line) ∧
      (line.Bare →
        Delimited.read false line.toText = .error (.rejected (.invalidAngle [])) ∧
        Lenient.read false line.toText = .ok line) := by
  refine ⟨fun tolerant => ?_, fun bare => ⟨Delimited.read_toText_of_bare parsed bare, ?_⟩⟩
  · rw [read_toText parsed (Or.inr inRange),
      parsed.reread_eq_iff.2 (inRange.stable visible tolerant)]
  · rw [Lenient.read_toText_of_bare parsed bare false,
      parsed.divisible.typed.compacted_eq_iff.2 visible]

/-- The field of the angle tells the angle. -/
theorem Parsed.angle_eq (parsed : line.Parsed source) :
    line.angle = if line.angle.getD [] = [] then none else some (line.angle.getD []) := by
  cases angle : line.angle with
  | none => rfl
  | some text =>
      have given : text ≠ [] := by
        rcases parsed.angle text angle with admitted | kept
        · exact admitted.ne_nil
        · exact kept.1
      rw [Option.getD_some, if_neg given]

section

variable {other : ActionLine} {otherSource : Text}

theorem Parsed.numbers_of_featherFields (parsed : line.Parsed source)
    (otherParsed : other.Parsed otherSource) (held : other.held = line.held)
    (same : other.featherFields = line.featherFields) :
    other.angle = line.angle ∧ other.magnitude = line.magnitude := by
  by_cases feather : line.held.contains (.tag .feather) = true
  · rw [featherFields, featherFields, held, if_pos feather, if_pos feather] at same
    obtain ⟨angles, magnitudes⟩ := List.cons.inj same
    constructor
    · calc
        other.angle = if other.angle.getD [] = [] then none else some (other.angle.getD []) :=
          otherParsed.angle_eq
        _ = if line.angle.getD [] = [] then none else some (line.angle.getD []) := by rw [angles]
        _ = line.angle := parsed.angle_eq.symm
    · have heads := congrArg List.head? magnitudes
      rwa [Option.head?_toList, Option.head?_toList] at heads
  · have here := parsed.missing_of_unfeathered feather
    have there := otherParsed.missing_of_unfeathered (by rw [held]; exact feather)
    exact ⟨there.1.trans here.1.symm, there.2.trans here.2.symm⟩

theorem Parsed.keys_of_tagFields (parsed : line.Parsed source)
    (otherParsed : other.Parsed otherSource) (held : other.held = line.held)
    (same : line.held.tags.map other.tagField = line.held.tags.map line.tagField) :
    other.keys = line.keys := by
  by_cases opened : line.held.contains (.tag .keys) = true
  · have written := List.map_inj_left.1 same .keys (Held.mem_tags.2 opened)
    rw [← otherParsed.divisible.typed.ofText_concat, ← parsed.divisible.typed.ofText_concat]
    exact congrArg KeySet.ofText (List.cons.inj written).2
  · refine KeySet.ext_mem fun key => ?_
    constructor
    · intro member
      exact absurd (held ▸ otherParsed.keyed key member) opened
    · intro member
      exact absurd (parsed.keyed key member) opened

/-- Two lines that were read, with the same frames and held inputs, differ in their texts if they
differ at all. -/
theorem Parsed.eq_of_toText (parsed : line.Parsed source) (otherParsed : other.Parsed otherSource)
    (frames : other.frames = line.frames) (held : other.held = line.held)
    (same : other.toText = line.toText) : other = line := by
  have fields : other.fields = line.fields := by
    rw [← parsed.divisible.splitOn_toText, ← otherParsed.divisible.splitOn_toText, same]
  rw [ActionLine.fields, ActionLine.fields, held] at fields
  obtain ⟨tagged, numbered⟩ := List.append_inj (List.cons.inj fields).2 (by simp)
  have keys := parsed.keys_of_tagFields otherParsed held tagged
  obtain ⟨angle, magnitude⟩ := parsed.numbers_of_featherFields otherParsed held numbered
  cases other
  cases line
  simp only [mk.injEq]
  exact ⟨frames, held, angle, magnitude, keys⟩

end

theorem reread_frames (tolerant : Bool) (line : ActionLine) :
    (line.reread tolerant).frames = line.frames := by
  rw [reread]
  split <;> rfl

theorem reread_held (tolerant : Bool) (line : ActionLine) :
    (line.reread tolerant).held = line.held := by
  rw [reread]
  split <;> rfl

/-- Formatting a canonical text again leaves it alone exactly when the line is stable. -/
theorem Parsed.toText_reread_eq_iff (parsed : line.Parsed source)
    (allowed : tolerant = true ∨ line.InRange) :
    (line.reread tolerant).toText = line.toText ↔ line.Stable tolerant := by
  rw [← parsed.reread_eq_iff]
  constructor
  · intro same
    obtain ⟨⟨other, _, rereadParsed⟩, _⟩ := parsed_of_read (read_toText parsed allowed)
    exact parsed.eq_of_toText rereadParsed (reread_frames tolerant line)
      (reread_held tolerant line) same
  · intro same
    rw [same]

end ActionLine

end FrameScript
