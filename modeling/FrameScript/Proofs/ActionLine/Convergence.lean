import FrameScript.Proofs.ActionLine.Plain

/-!
# Lines that both readers read alike

A line of plain fields with a feather among them that has no number, or a number in the form in
which it is written: read field by field its number is the angle, read character by character it is
a magnitude that becomes the angle at the end.  So a line of this kind that falls back is the same
for both readers.
-/

namespace FrameScript

open Number (Range)
open ActionLine (delimiter FallsBack)
open Delimited (fieldsOf holdField opensKeys)

/-- A line of plain fields, of which one at most opens a list of keys, with a feather alone in a
field among them.  The feather may have a number that is limited alike as a text and as a value. -/
structure Spelled (text count : Text) (before : List Text) (feather : Char) (number : Option Text)
    (after : List Text) : Prop where
  fields : fieldsOf text = count :: (before ++ [feather] :: (number.toList ++ after))
  writes : Tag.ofChar? feather = some .feather
  plain : ∀ field ∈ before ++ after, Plain field
  once : (before ++ after).countP opensKeys ≤ 1
  digits : ∀ typed, number = some typed → ∀ char ∈ typed, Lenient.isNumberChar char = true
  limited : ∀ typed, number = some typed → ∃ angle,
    Range.angle.clampText? typed = some angle ∧ Range.angle.clampValue? typed = some angle
  given : number ≠ none → after.head? ≠ some []
  pointless : number = none → ∀ field, after.head? = some field → field.head? ≠ some '.'

namespace Spelled

variable {text count : Text} {before after : List Text} {feather : Char} {number : Option Text}

/-- The line at the feather: the fields in front of it are held, and so is the feather. -/
def feathered (frames : Nat) (before : List Text) : ActionLine :=
  (before.foldl holdField { frames }).hold (.tag .feather)

theorem feathered_numbers (frames : Nat) (before : List Text) :
    (feathered frames before).numbers = (none, none) :=
  Delimited.foldl_holdField_numbers { frames } before

/-- The line with all fields held. -/
def held (frames : Nat) (before after : List Text) : ActionLine :=
  after.foldl holdField (feathered frames before)

theorem held_numbers (frames : Nat) (before after : List Text) :
    (held frames before after).numbers = (none, none) :=
  (Delimited.foldl_holdField_numbers _ after).trans (feathered_numbers frames before)

/-- The numbers of a line do not matter to what is held behind them. -/
theorem foldl_holdField_feathered (frames : Nat) (before after : List Text)
    (angle magnitude : Option Text) :
    after.foldl holdField { feathered frames before with angle, magnitude } =
      { held frames before after with angle, magnitude } :=
  Delimited.foldl_holdField_withNumbers (feathered frames before) angle magnitude after

theorem withNumbers_of_numbers {line : ActionLine} {angle magnitude : Option Text}
    (numbers : line.numbers = (angle, magnitude)) : { line with angle, magnitude } = line := by
  obtain ⟨rfl, rfl⟩ := Prod.mk.inj numbers
  rfl

variable (spelled : Spelled text count before feather number after)

include spelled

theorem plainBefore : ∀ field ∈ before, Plain field :=
  fun field member => spelled.plain field (List.mem_append_left after member)

theorem plainAfter : ∀ field ∈ after, Plain field :=
  fun field member => spelled.plain field (List.mem_append_right before member)

theorem foldlM_behind (frames : Nat) :
    ∃ last,
      (number.toList ++ after).foldlM (Delimited.step true) ⟨.angle, feathered frames before⟩ =
        .ok ⟨last, { held frames before after with
          angle := number.bind Range.angle.clampValue?, magnitude := none }⟩ := by
  cases number with
  | none =>
      have other : Delimited.Expected.angle = .magnitude → after.head? ≠ some [] := by simp
      obtain ⟨last, scanned⟩ :=
        Delimited.foldlM_plain spelled.plainAfter other (feathered frames before)
      refine ⟨last, ?_⟩
      rw [Option.bind_none, withNumbers_of_numbers (held_numbers frames before after)]
      exact scanned
  | some typed =>
      obtain ⟨angle, clamped, limited⟩ := spelled.limited typed rfl
      have taken : Delimited.step true ⟨.angle, feathered frames before⟩ typed =
          .ok ⟨.magnitude,
            { feathered frames before with angle := some angle, magnitude := none }⟩ := by
        simp only [Delimited.step, clamped]
        rw [(Prod.mk.inj (feathered_numbers frames before)).2]
      obtain ⟨last, scanned⟩ := Delimited.foldlM_plain spelled.plainAfter
        (fun _ => spelled.given (by simp))
        { feathered frames before with angle := some angle, magnitude := none }
      refine ⟨last, ?_⟩
      rw [Option.toList_some, List.singleton_append, foldlM_cons_of_ok taken, scanned,
        foldl_holdField_feathered, Option.bind_some, limited]

/-- Read field by field, the line has its number as a text within its range. -/
theorem readFields_eq (frames : Nat) :
    Delimited.readFields true frames (fieldsOf text).tail =
      .ok { held frames before after with
        angle := number.bind Range.angle.clampValue?, magnitude := none } := by
  have featherless : ∀ field ∈ before, Delimited.opensFeather field = false :=
    fun field member => (spelled.plainBefore field member).featherless
  have opened : Delimited.step true ⟨.tag, before.foldl holdField { frames }⟩ [feather] =
      .ok ⟨.angle, feathered frames before⟩ := by
    simp only [Delimited.step, Delimited.takeTag, spelled.writes]
    rfl
  obtain ⟨last, scanned⟩ := spelled.foldlM_behind frames
  have whole : (fieldsOf text).tail.foldlM (Delimited.step true) ⟨.tag, { frames }⟩ =
      .ok ⟨last, { held frames before after with
        angle := number.bind Range.angle.clampValue?, magnitude := none }⟩ := by
    rw [spelled.fields, List.tail_cons, List.foldlM_append,
      Delimited.foldlM_featherless true featherless, ← scanned]
    exact foldlM_cons_of_ok opened
  rw [Delimited.readFields, whole]
  exact if_neg (by simp)

theorem countField_eq : Delimited.countField text = count := by
  rw [← Delimited.headD_fieldsOf, spelled.fields, List.headD_cons]

/-- The characters of the line, which has no blanks but those around its fields. -/
theorem compact_eq (digits : ∀ char ∈ count, char.isDigit = true) :
    Text.compact text =
      count ++ ((before.flatMap fun field => delimiter :: field) ++
        delimiter :: feather :: (number.toList ++ after).flatMap fun field =>
          delimiter :: field) := by
  have counted : Text.compact count = count :=
    Text.compact_of_visible fun char member =>
      Number.isBlank_of_isNumeralChar (Number.isNumeralChar_of_isDigit (digits char member))
  have visible : ∀ field ∈ before ++ [feather] :: (number.toList ++ after),
      Text.compact field = id field := by
    intro field member
    apply Text.compact_of_visible
    rcases List.mem_append.1 member with inside | later
    · exact (spelled.plainBefore field inside).visible
    rcases List.mem_cons.1 later with rfl | behind
    · intro char here
      rw [List.mem_singleton.1 here]
      exact Tag.isBlank_of_ofChar? spelled.writes
    rcases List.mem_append.1 behind with typed | inside
    · intro char here
      exact (ActionLine.numeralText_of_numberChars
        (spelled.digits field (Option.mem_toList.1 typed))).visible char here
    · exact (spelled.plainAfter field inside).visible
  rw [Delimited.compact_eq, spelled.countField_eq, counted, spelled.fields, List.tail_cons,
    List.map_congr_left visible, List.map_id, List.flatMap_append, List.flatMap_cons]
  rfl

theorem countDigits_eq (digits : ∀ char ∈ count, char.isDigit = true) :
    Lenient.countDigits text = count := by
  have counts : ∀ char ∈ count, Lenient.isCountChar char = true :=
    fun char member => Lenient.isCountChar_of_isDigit (digits char member)
  have only : count.filter Char.isDigit = count := List.filter_eq_self.2 digits
  have passed : Lenient.isCountChar delimiter = true := rfl
  have unwritten : delimiter.isDigit = false := rfl
  have ends := Tag.isCountChar_of_ofChar? spelled.writes
  rw [Lenient.countDigits, Lenient.countPart, spelled.compact_eq digits,
    List.takeWhile_append_of_pos counts, List.filter_append, only,
    Lenient.filter_isDigit_plainFields spelled.plainBefore (by simp [passed, unwritten, ends]),
    List.append_nil]

theorem feathered_keys (frames : Nat) (some : after.countP opensKeys ≠ 0) :
    (feathered frames before).keys = ∅ := by
  have closed : before.countP opensKeys = 0 := by
    have once := spelled.once
    rw [List.countP_append] at once
    omega
  exact Delimited.foldl_holdField_keys { frames } closed

theorem onceAfter : after.countP opensKeys ≤ 1 := by
  have once := spelled.once
  rw [List.countP_append] at once
  omega

/-- A feather without a number leaves the fields behind it as they are. -/
theorem foldlM_unnumbered (missing : number = none) (frames : Nat) (taken : FrameCount) :
    ∃ last, last ≠ .frames ∧
      (after.flatMap fun field => delimiter :: field).foldlM Lenient.step
          ⟨.angle, taken, feathered frames before⟩ =
        .ok ⟨last, taken, held frames before after⟩ := by
  have once := spelled.onceAfter
  have unkeyed := spelled.feathered_keys frames
  have plain := spelled.plainAfter
  have pointless := spelled.pointless missing
  rw [held]
  cases after with
  | nil => exact ⟨.angle, by simp, rfl⟩
  | cons first rest =>
      have ends : Lenient.step ⟨.angle, taken, feathered frames before⟩ delimiter =
          .ok ⟨.magnitude, taken, feathered frames before⟩ := rfl
      cases first with
      | nil =>
          have closed : ¬opensKeys [] = true := by decide
          rw [List.countP_cons_of_neg closed] at once unkeyed
          have magnitudeEnds : Lenient.EndsField .magnitude := ⟨by simp, by simp⟩
          have plainRest : ∀ field ∈ rest, Plain field :=
            fun field member => plain field (List.mem_cons_of_mem [] member)
          obtain ⟨last, lastEnds, scanned⟩ :=
            Lenient.foldlM_plainFields plainRest once taken magnitudeEnds unkeyed
          refine ⟨last, lastEnds.1, ?_⟩
          rw [List.flatMap_cons, List.cons_append, List.nil_append, foldlM_cons_of_ok ends, scanned]
          rfl
      | cons head list =>
          have other : Lenient.isNumberChar head = false := by
            have uncounted := (plain (head :: list) (by simp)).head_not_count head rfl
            have point : head ≠ '.' := by simpa using pointless (head :: list) rfl
            rw [Lenient.isCountChar, Bool.or_eq_false_iff] at uncounted
            simp [Lenient.isNumberChar, uncounted.1, point]
          have same : Lenient.step ⟨.magnitude, taken, feathered frames before⟩ head =
              Lenient.step ⟨.tag, taken, feathered frames before⟩ head :=
            Lenient.step_magnitude_of_other other taken _
          have tagEnds := Lenient.idle_tag.endsField
          obtain ⟨last, lastEnds, scanned⟩ :=
            Lenient.foldlM_plainFields plain once taken tagEnds unkeyed
          refine ⟨last, lastEnds.1, ?_⟩
          rw [← scanned, List.flatMap_cons, List.cons_append, List.cons_append,
            foldlM_cons_of_ok ends,
            foldlM_cons_of_ok (Lenient.step_delimiter tagEnds taken (feathered frames before)),
            List.foldlM_cons, List.foldlM_cons, same]

/-- Behind a feather its number is collected as a magnitude, because a delimiter stands between
them. -/
theorem foldlM_numbered {typed : Text} (present : number = some typed) (frames : Nat)
    (taken : FrameCount) :
    ∃ last, last ≠ .frames ∧
      ((typed :: after).flatMap fun field => delimiter :: field).foldlM Lenient.step
          ⟨.angle, taken, feathered frames before⟩ =
        .ok ⟨last, taken, { held frames before after with
          angle := none, magnitude := some typed }⟩ := by
  have ends : Lenient.step ⟨.angle, taken, feathered frames before⟩ delimiter =
      .ok ⟨.magnitude, taken, feathered frames before⟩ := rfl
  have given : typed ≠ [] := by
    rintro rfl
    obtain ⟨angle, clamped, _⟩ := spelled.limited [] present
    cases clamped
  obtain ⟨angle, magnitude⟩ := Prod.mk.inj (feathered_numbers frames before)
  have collects : typed.foldlM Lenient.step ⟨.magnitude, taken, feathered frames before⟩ =
      .ok ⟨.magnitude, taken, { feathered frames before with
        angle := none, magnitude := some typed }⟩ := by
    rw [Lenient.foldlM_magnitudeChars (spelled.digits typed present), magnitude,
      Lenient.foldl_extend_none, Lenient.collected, if_neg given, ← angle]
  have magnitudeEnds : Lenient.EndsField .magnitude := ⟨by simp, by simp⟩
  have unkeyed : after.countP opensKeys ≠ 0 →
      { feathered frames before with angle := none, magnitude := some typed }.keys = ∅ :=
    spelled.feathered_keys frames
  obtain ⟨last, lastEnds, scanned⟩ := Lenient.foldlM_plainFields spelled.plainAfter
    spelled.onceAfter taken magnitudeEnds unkeyed
  refine ⟨last, lastEnds.1, ?_⟩
  rw [List.flatMap_cons, List.cons_append, foldlM_cons_of_ok ends,
    Lenient.foldlM_append_of_ok collects, scanned, foldl_holdField_feathered]

theorem foldlM_chars (frames : Nat) (taken : FrameCount) :
    ∃ last, last ≠ .frames ∧
      ((number.toList ++ after).flatMap fun field => delimiter :: field).foldlM Lenient.step
          ⟨.angle, taken, feathered frames before⟩ =
        .ok ⟨last, taken, { held frames before after with
          angle := none, magnitude := number }⟩ := by
  cases number with
  | none =>
      rw [withNumbers_of_numbers (held_numbers frames before after)]
      exact spelled.foldlM_unnumbered rfl frames taken
  | some typed => exact spelled.foldlM_numbered rfl frames taken

/-- At the end the lone magnitude becomes the angle. -/
theorem finish_eq (frames : Nat) (taken : FrameCount) {last : Lenient.Mode}
    (started : last ≠ .frames) :
    Lenient.finish true ⟨last, taken, { held frames before after with
        angle := none, magnitude := number }⟩ =
      .ok { held frames before after with
        angle := number.bind Range.angle.clampValue?, magnitude := none } := by
  cases number with
  | none => exact Lenient.finish_of_settled started rfl rfl
  | some typed =>
      obtain ⟨angle, _, limited⟩ := spelled.limited typed rfl
      have settled : Lenient.settle true Range.angle .invalidAngle (some typed) =
          .ok (Range.angle.clampValue? typed) := by
        rw [Lenient.settle, limited]
      exact Lenient.finish_of_settled started settled rfl

theorem read_of_counted (isDigits : count.isDigits = true) (fits : count.length ≤ digitLimit) :
    Delimited.read true text =
      .ok { held (Number.digitsValue count) before after with
        angle := number.bind Range.angle.clampValue?, magnitude := none } := by
  rw [← spelled.countField_eq] at isDigits fits
  rw [Delimited.read_of_counted isDigits fits, spelled.countField_eq, spelled.readFields_eq]
  rfl

/-- The characters of the line are read like its fields, apart from the place of the number. -/
theorem foldlM_compact (digits : ∀ char ∈ count, char.isDigit = true)
    (ended : Lenient.countPart text ≠ Text.compact text) (given : count ≠ [])
    (fits : count.length ≤ digitLimit) :
    ∃ last, last ≠ .frames ∧
      (Text.compact text).foldlM Lenient.step {} =
        .ok ⟨last, .ofDigits count, { held (Number.digitsValue count) before after with
          angle := none, magnitude := number }⟩ := by
  have counts : ∀ char ∈ count, Lenient.isCountChar char = true :=
    fun char member => Lenient.isCountChar_of_isDigit (digits char member)
  have tagEnds := Lenient.idle_tag.endsField
  have unkeyed : before.countP opensKeys ≠ 0 →
      ({ frames := Number.digitsValue count } : ActionLine).keys = ∅ := fun _ => rfl
  have onceBefore : before.countP opensKeys ≤ 1 := by
    have once := spelled.once
    rw [List.countP_append] at once
    omega
  obtain ⟨mode, ends, scanned⟩ := Lenient.foldlM_plainFields spelled.plainBefore onceBefore
    (.ofDigits count) tagEnds unkeyed
  obtain ⟨last, started, behind⟩ :=
    spelled.foldlM_chars (Number.digitsValue count) (.ofDigits count)
  refine ⟨last, started, ?_⟩
  rw [← spelled.countDigits_eq digits] at given fits
  rw [Lenient.foldlM_of_counted ended given fits, spelled.countDigits_eq digits,
    spelled.compact_eq digits, List.dropWhile_append_of_pos counts, Lenient.foldlM_dropWhile,
    Lenient.foldlM_append_of_ok scanned, foldlM_cons_of_ok (Lenient.step_delimiter ends _ _),
    foldlM_cons_of_ok (Lenient.step_tag spelled.writes _ _)]
  exact behind

/-- The two readers agree on the line. -/
theorem read_eq (falls : FallsBack text) : Delimited.read true text = Lenient.read true text := by
  obtain ⟨isDigits, fits⟩ := falls.counted
  rw [spelled.countField_eq] at isDigits fits
  obtain ⟨given, digits⟩ := Text.isDigits_iff.1 isDigits
  obtain ⟨last, started, scanned⟩ := spelled.foldlM_compact digits falls.ended.1 given fits
  rw [spelled.read_of_counted isDigits fits, Lenient.read, scanned]
  exact (spelled.finish_eq _ _ started).symm

end Spelled

end FrameScript
