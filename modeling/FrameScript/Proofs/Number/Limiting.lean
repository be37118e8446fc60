import FrameScript.Proofs.Number.Ranges

/-!
# Two ways of limiting a number

A typed number is limited to a range by keeping its text or by writing it anew.  Both ways fail on
the same texts and give texts of the same number, the typed one moved to the nearer bound if it lies
outside.  Limiting what has been limited changes nothing, and writing anew what has been limited
with its text kept is writing anew from the start.
-/

namespace FrameScript.Number.Range

variable {range : Range} {text : Text} {number : Double}

/-- The place in the order of all numbers to which a number is moved by limiting it. -/
def limitedRank (range : Range) (number : Double) : Int :=
  max range.low.rank (min number.rank range.high.rank)

theorem Proper.rank_limit (proper : range.Proper) (number : Double) :
    (range.limit number).rank = range.limitedRank number := by
  have ordered := proper.low_le_high
  rw [limit, limitedRank]
  by_cases low : number < range.low
  · have notHigh : ¬range.high < range.low := by
      rw [Double.lt_iff_rank]
      omega
    rw [if_pos low, if_neg notHigh]
    rw [Double.lt_iff_rank] at low
    omega
  · rw [if_neg low]
    rw [Double.lt_iff_rank] at low
    split
    · rename_i high
      rw [Double.lt_iff_rank] at high
      omega
    · rename_i notHigh
      rw [Double.lt_iff_rank] at notHigh
      omega

theorem Proper.limit_within (proper : range.Proper) (number : Double) :
    range.low.rank ≤ (range.limit number).rank ∧
      (range.limit number).rank ≤ range.high.rank := by
  have ordered := proper.low_le_high
  rw [proper.rank_limit, limitedRank]
  omega

theorem Proper.isFinite_limit (proper : range.Proper) (number : Double) :
    (range.limit number).IsFinite :=
  proper.isFinite_of_rank (proper.limit_within number).1 (proper.limit_within number).2

theorem clampValue?_of_read? (found : read? text = some number) :
    range.clampValue? text = some (plainText (range.limit number)) := by
  rw [clampValue?, found, Option.map_some]

/-- A number keeps its text if it lies in the range, and otherwise its text is that of the limited
number. -/
theorem Proper.clampText?_cases (proper : range.Proper) (found : read? text = some number) :
    range.clampText? text = some text ∧ range.limit number = number ∨
      range.clampText? text = some (plainText (range.limit number)) := by
  have ordered := proper.low_le_high
  rw [clampText?, found, Option.map_some, limit]
  by_cases high : range.high < number
  · right
    have notLow : ¬number < range.low := by
      rw [Double.lt_iff_rank] at high ⊢
      omega
    rw [if_pos high, if_neg notLow, if_pos high]
  · rw [if_neg high]
    by_cases low : number < range.low
    · right
      have notHigh : ¬range.high < range.low := by
        rw [Double.lt_iff_rank]
        omega
      rw [if_pos low, if_pos low, if_neg notHigh]
    · left
      rw [if_neg low, if_neg low, if_neg high]
      exact ⟨rfl, rfl⟩

theorem Proper.clampText?_limit (proper : range.Proper) (number : Double) :
    range.clampText? (plainText (range.limit number)) = some (plainText (range.limit number)) :=
  (admits_plainText (proper.isFinite_limit number) (proper.limit_within number).1
    (proper.limit_within number).2).clampText?_eq

theorem Proper.clampValue?_limit (proper : range.Proper) (number : Double) :
    range.clampValue? (plainText (range.limit number)) = some (plainText (range.limit number)) := by
  have bounds := proper.limit_within number
  obtain ⟨numeral, read, found, same⟩ := read?_plainText (proper.isFinite_limit number)
  have within : range.Within (plainText (range.limit number)) := by
    refine ⟨Text.trim_of_visible numeral.visible, read, found, ?_⟩
    change range.low.rank ≤ read.rank ∧ read.rank ≤ range.high.rank
    rwa [same]
  exact (proper.clampValue?_eq_self_iff within).2 ⟨_, proper.isFinite_limit number, rfl⟩

theorem Proper.read?_limit (proper : range.Proper) (number : Double) :
    (read? (plainText (range.limit number))).map Double.rank = some (range.limitedRank number) := by
  obtain ⟨_, read, found, same⟩ := read?_plainText (proper.isFinite_limit number)
  rw [found, Option.map_some, same, proper.rank_limit]

/-! ## Limiting twice -/

theorem clampText?_eq_none_iff : range.clampText? text = none ↔ read? text = none := by
  rw [clampText?, Option.map_eq_none_iff]

theorem clampValue?_eq_none_iff : range.clampValue? text = none ↔ read? text = none := by
  rw [clampValue?, Option.map_eq_none_iff]

/-- What the two ways of limiting a number come to: texts of the limited number, where the two zeros
count as one, that stay when they are limited again with their text kept, and of which the second is
what writing either of them anew gives. -/
structure Limits (range : Range) (number : Double) (typed written : Text) : Prop where
  typed_rank : (read? typed).map Double.rank = some (range.limitedRank number)
  written_rank : (read? written).map Double.rank = some (range.limitedRank number)
  clampText?_typed : range.clampText? typed = some typed
  clampText?_written : range.clampText? written = some written
  clampValue?_typed : range.clampValue? typed = some written
  clampValue?_written : range.clampValue? written = some written

/-- The two ways of limiting a number fail on the same texts, agree on the number and absorb each
other. -/
theorem Proper.limits_of_clamp (proper : range.Proper) (text : Text) :
    (range.clampText? text = none ↔ range.clampValue? text = none) ∧
      (range.clampValue? text = none ↔ read? text = none) ∧
      ∀ number, read? text = some number →
        ∃ typed written, range.clampText? text = some typed ∧
          range.clampValue? text = some written ∧ range.Limits number typed written := by
  refine ⟨clampText?_eq_none_iff.trans clampValue?_eq_none_iff.symm, clampValue?_eq_none_iff,
    fun number found => ?_⟩
  have again := proper.clampText?_limit number
  have anew := proper.clampValue?_limit number
  have value := proper.read?_limit number
  have written : range.clampValue? text = some (plainText (range.limit number)) :=
    clampValue?_of_read? found
  rcases proper.clampText?_cases found with ⟨kept, inside⟩ | moved
  · refine ⟨text, _, kept, written, ⟨?_, value, kept, again, written, anew⟩⟩
    rw [found, Option.map_some, ← proper.rank_limit, inside]
  · exact ⟨_, _, moved, written, ⟨value, value, again, again, anew, anew⟩⟩

/-- The negative zero keeps its sign as a text and loses it when it is written anew. -/
theorem Proper.limits_of_clamp_negativeZero :
    angle.clampText? "-0.0".toList = some "-0.0".toList ∧
      angle.clampValue? "-0.0".toList = some "0".toList ∧
      angle.Limits (.finite true 0 fits_zero) "-0.0".toList "0".toList := by
  have found : read? "-0.0".toList = some (.finite true 0 fits_zero) := by decide +kernel
  have keeps : angle.clampText? "-0.0".toList = some "-0.0".toList := by decide +kernel
  have loses : angle.clampValue? "-0.0".toList = some "0".toList := by decide +kernel
  obtain ⟨typed, written, kept, anew, limits⟩ :=
    (proper_angle.limits_of_clamp "-0.0".toList).2.2 _ found
  cases keeps.symm.trans kept
  cases loses.symm.trans anew
  exact ⟨keeps, loses, limits⟩

end FrameScript.Number.Range
