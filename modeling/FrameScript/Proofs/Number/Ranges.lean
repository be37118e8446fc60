import FrameScript.Number.Range
import FrameScript.Proofs.Number.ReadBack

/-!
# Numbers within ranges

A text that a range admits is a numeral without blanks whose number lies in the range, so limiting
it changes nothing.  Whatever either way of limiting a number gives is such a text.  A number within
a range that is written anew keeps its text exactly when it was written plainly.
-/

namespace FrameScript.Number

attribute [local irreducible] depth width

/-- A number that is not infinite. -/
def Double.IsFinite (number : Double) : Prop :=
  ∃ negative quanta fits, number = .finite negative quanta fits

theorem Double.lt_iff_rank {first second : Double} : first < second ↔ first.rank < second.rank :=
  Iff.rfl

/-- The plain text of a finite number is a numeral whose number has the same place in the order. -/
theorem read?_plainText {number : Double} (finite : number.IsFinite) :
    NumeralText (plainText number) ∧
      ∃ read, read? (plainText number) = some read ∧ read.rank = number.rank := by
  obtain ⟨negative, quanta, fits, rfl⟩ := finite
  obtain ⟨written, found, value⟩ := numeral?_plainText negative fits
  refine ⟨numeral?_chars found, _, read?_of_numeral? found, ?_⟩
  rw [value]
  cases negative with
  | false => rfl
  | true =>
      by_cases zero : quanta = 0
      · subst zero
        rfl
      · simp [Double.rank, Double.isNegative, Double.magnitude, zero]

namespace Range

/-- A range between finite bounds in order. -/
structure Proper (range : Range) : Prop where
  low_finite : range.low.IsFinite
  high_finite : range.high.IsFinite
  low_le_high : range.low.rank ≤ range.high.rank

/-- A text that limiting leaves alone: a numeral, without blanks, of a number in the range. -/
structure Admits (range : Range) (text : Text) : Prop where
  numeral : NumeralText text
  clampText?_eq : range.clampText? text = some text

theorem Admits.ne_nil {range : Range} {text : Text} (admitted : range.Admits text) :
    text ≠ [] := by
  rintro rfl
  have clamped := admitted.clampText?_eq
  rw [clampText?] at clamped
  cases clamped

/-- A number that is not outside of a range stays as it is written. -/
theorem clampText?_of_rank {range : Range} {text : Text} {number : Double}
    (found : read? text = some number) (above : range.low.rank ≤ number.rank)
    (below : number.rank ≤ range.high.rank) : range.clampText? text = some text := by
  have notHigh : ¬range.high < number := by
    rw [Double.lt_iff_rank]
    omega
  have notLow : ¬number < range.low := by
    rw [Double.lt_iff_rank]
    omega
  rw [clampText?, found, Option.map_some, if_neg notHigh, if_neg notLow]

theorem admits_plainText {range : Range} {number : Double} (finite : number.IsFinite)
    (above : range.low.rank ≤ number.rank) (below : number.rank ≤ range.high.rank) :
    range.Admits (plainText number) := by
  obtain ⟨numeral, read, found, same⟩ := read?_plainText finite
  exact ⟨numeral, clampText?_of_rank found (by omega) (by omega)⟩

/-- Limiting a text that has no blanks around it gives a text that the range admits. -/
theorem Proper.admits_of_clampText? {range : Range} (proper : range.Proper) {text clamped : Text}
    (trimmed : Text.trim text = text) (found : range.clampText? text = some clamped) :
    range.Admits clamped := by
  have ordered := proper.low_le_high
  have again := found
  rw [clampText?] at found
  obtain ⟨number, read, shape⟩ := Option.map_eq_some_iff.1 found
  split at shape
  · subst shape
    exact admits_plainText proper.high_finite ordered (Int.le_refl _)
  split at shape
  · subst shape
    exact admits_plainText proper.low_finite (Int.le_refl _) ordered
  · subst shape
    have numeral := numeralText_of_read? read
    rw [trimmed] at numeral
    exact ⟨numeral, again⟩

theorem limit_cases (range : Range) (number : Double) :
    range.limit number = range.low ∨ range.limit number = range.high ∨
      (range.limit number = number ∧ range.low.rank ≤ number.rank ∧
        number.rank ≤ range.high.rank) := by
  rw [limit]
  by_cases low : number < range.low
  · rw [if_pos low]
    split
    · exact Or.inr (Or.inl rfl)
    · exact Or.inl rfl
  · rw [if_neg low]
    rw [Double.lt_iff_rank] at low
    split
    · exact Or.inr (Or.inl rfl)
    · rename_i notHigh
      rw [Double.lt_iff_rank] at notHigh
      exact Or.inr (Or.inr ⟨rfl, by omega, by omega⟩)

theorem Proper.isFinite_of_rank {range : Range} (proper : range.Proper) {number : Double}
    (above : range.low.rank ≤ number.rank) (below : number.rank ≤ range.high.rank) :
    number.IsFinite := by
  cases number with
  | finite negative quanta fits => exact ⟨negative, quanta, fits, rfl⟩
  | infinite negative =>
      obtain ⟨lowSign, low, lowFits, lowShape⟩ := proper.low_finite
      obtain ⟨highSign, high, highFits, highShape⟩ := proper.high_finite
      have lowBound := lowFits.1
      have highBound := highFits.1
      rw [lowShape] at above
      rw [highShape] at below
      cases negative <;> cases lowSign <;> cases highSign <;>
        simp [Double.rank, Double.isNegative, Double.magnitude] at above below <;> omega

/-- Writing a limited number anew gives a text that the range admits. -/
theorem Proper.admits_of_clampValue? {range : Range} (proper : range.Proper) {text clamped : Text}
    (found : range.clampValue? text = some clamped) : range.Admits clamped := by
  have ordered := proper.low_le_high
  rw [clampValue?] at found
  obtain ⟨number, _, rfl⟩ := Option.map_eq_some_iff.1 found
  rcases limit_cases range number with same | same | ⟨same, above, below⟩
  · rw [same]
    exact admits_plainText proper.low_finite (Int.le_refl _) ordered
  · rw [same]
    exact admits_plainText proper.high_finite ordered (Int.le_refl _)
  · rw [same]
    exact admits_plainText (proper.isFinite_of_rank above below) above below

/-- A text that a range admits is a number. -/
theorem Admits.read?_isSome {range : Range} {text : Text} (admitted : range.Admits text) :
    (read? text).isSome = true := by
  have clamped := admitted.clampText?_eq
  rw [clampText?] at clamped
  obtain ⟨number, found, _⟩ := Option.map_eq_some_iff.1 clamped
  rw [found]
  rfl

theorem proper_upTo {number : Nat} (fits : Fits (number * unit)) :
    Proper ⟨.zero, Decimal.toDouble { coefficient := number }⟩ := by
  refine ⟨⟨false, 0, fits_zero, rfl⟩, ⟨false, _, fits, Decimal.toDouble_natural fits⟩, ?_⟩
  rw [Decimal.toDouble_natural fits]
  exact Int.natCast_nonneg _

theorem proper_angle : angle.Proper := proper_upTo (by decide +kernel)

theorem proper_magnitude : magnitude.Proper := proper_upTo (by decide +kernel)

theorem magnitude_high_le : magnitude.high ≤ angle.high := by
  have one : Fits (1 * unit) := by decide +kernel
  have circle : Fits (360 * unit) := by decide +kernel
  have ranks : magnitude.high.rank = (1 * unit : Nat) ∧ angle.high.rank = (360 * unit : Nat) := by
    rw [magnitude, angle, Decimal.toDouble_natural one, Decimal.toDouble_natural circle]
    exact ⟨rfl, rfl⟩
  have ordered : 1 * unit ≤ 360 * unit := Nat.mul_le_mul_right unit (by decide)
  change magnitude.high.rank ≤ angle.high.rank
  omega

/-! ## Typed numbers -/

/-- A typed number without blanks around it whose value lies in a range. -/
def Within (range : Range) (text : Text) : Prop :=
  Text.trim text = text ∧
    ∃ number, read? text = some number ∧ range.low ≤ number ∧ number ≤ range.high

theorem Within.admits {range : Range} {text : Text} (within : range.Within text) :
    range.Admits text := by
  obtain ⟨trimmed, number, found, above, below⟩ := within
  have numeral := numeralText_of_read? found
  rw [trimmed] at numeral
  exact ⟨numeral, clampText?_of_rank found above below⟩

/-- What can be a magnitude can be an angle. -/
theorem Within.angle {text : Text} (within : magnitude.Within text) : angle.Within text := by
  obtain ⟨trimmed, number, found, above, below⟩ := within
  exact ⟨trimmed, number, found, above, Int.le_trans below magnitude_high_le⟩

end Range

/-- A text in which a finite number is written plainly. -/
def Rendered (text : Text) : Prop := ∃ number : Double, number.IsFinite ∧ plainText number = text

/-- The sign of a zero is not written. -/
theorem plainText_unsigned (negative : Bool) {quanta : Nat} (fits : Fits quanta) :
    plainText (.finite (negative && quanta != 0) quanta fits) =
      plainText (.finite negative quanta fits) := by
  by_cases zero : quanta = 0
  · subst zero
    have whole (sign : Bool) : (Double.finite sign 0 fits).isIntegral = true := by
      rw [Double.isIntegral, Nat.zero_mod]
      rfl
    rw [plainText, plainText, if_pos (whole _), if_pos (whole _)]
    simp [Double.isNegative, Double.magnitude]
  · have given : (negative && quanta != 0) = negative := by simp [zero]
    rw [given]

/-- A number that is written plainly is read as a number with the same plain text. -/
theorem Rendered.read? {text : Text} (rendered : Rendered text) :
    ∃ number, Number.read? text = some number ∧ plainText number = text := by
  obtain ⟨number, ⟨negative, quanta, fits, rfl⟩, rfl⟩ := rendered
  obtain ⟨written, found, value⟩ := numeral?_plainText negative fits
  refine ⟨written.toDouble, read?_of_numeral? found, ?_⟩
  rw [value, plainText_unsigned]

namespace Range

variable {range : Range} {text : Text}

theorem limit_of_rank {number : Double} (above : range.low.rank ≤ number.rank)
    (below : number.rank ≤ range.high.rank) : range.limit number = number := by
  have notLow : ¬number < range.low := by
    rw [Double.lt_iff_rank]
    omega
  have notHigh : ¬range.high < number := by
    rw [Double.lt_iff_rank]
    omega
  rw [limit, if_neg notLow, if_neg notHigh]

/-- A number within a range is written anew as it is. -/
theorem Within.clampValue?_eq (within : range.Within text) :
    ∃ number, Number.read? text = some number ∧ range.low ≤ number ∧ number ≤ range.high ∧
      range.clampValue? text = some (plainText number) := by
  obtain ⟨_, number, found, above, below⟩ := within
  refine ⟨number, found, above, below, ?_⟩
  rw [clampValue?, found, Option.map_some, limit_of_rank above below]

/-- Writing a number within a range anew gives the same text exactly when it is written plainly. -/
theorem Proper.clampValue?_eq_self_iff (proper : range.Proper) (within : range.Within text) :
    range.clampValue? text = some text ↔ Rendered text := by
  obtain ⟨number, found, above, below, clamped⟩ := within.clampValue?_eq
  rw [clamped, Option.some.injEq]
  constructor
  · intro same
    exact ⟨number, proper.isFinite_of_rank above below, same⟩
  · intro rendered
    obtain ⟨other, foundOther, same⟩ := rendered.read?
    cases found.symm.trans foundOther
    exact same

end Range

end FrameScript.Number
