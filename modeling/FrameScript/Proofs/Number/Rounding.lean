import FrameScript.Number.Shortest

/-!
# Rounding

A quotient of quanta keeps its nearest number when both of its parts are multiplied, and a number
that a double has is rounded to itself.  So the decimals that write a double exactly, and the
shortest decimal chosen for it, have that double as their value.
-/

namespace FrameScript.Number

theorem depth_pos : 0 < depth := by decide

-- The powers of two behind these two are never to be computed.
attribute [local irreducible] depth width

theorem roundQuotient_mul_right (numerator denominator : Nat) {factor : Nat}
    (positive : 0 < factor) :
    roundQuotient (numerator * factor) (denominator * factor) =
      roundQuotient numerator denominator := by
  have quotient : numerator * factor / (denominator * factor) = numerator / denominator :=
    Nat.mul_div_mul_right _ _ positive
  have twice : 2 * (numerator * factor % (denominator * factor)) =
      2 * (numerator % denominator) * factor := by
    rw [Nat.mul_mod_mul_right, Nat.mul_assoc]
  rw [roundQuotient, roundQuotient, quotient, twice]
  simp only [Nat.mul_lt_mul_right positive]

theorem roundQuotient_mul_self (quotient : Nat) {denominator : Nat} (positive : 0 < denominator) :
    roundQuotient (quotient * denominator) denominator = quotient := by
  rw [roundQuotient, Nat.mul_mod_left, Nat.mul_div_cancel _ positive]
  exact if_pos positive

theorem spacing_pos (quanta : Nat) : 0 < spacing quanta := twoPower_pos _

theorem roundQuanta_mul_right (numerator denominator : Nat) {factor : Nat}
    (positive : 0 < factor) :
    roundQuanta (numerator * factor) (denominator * factor) =
      roundQuanta numerator denominator := by
  rw [roundQuanta, roundQuanta, Nat.mul_div_mul_right _ _ positive, Nat.mul_right_comm,
    roundQuotient_mul_right _ _ positive]

theorem roundQuanta_mul_self {quanta denominator : Nat} (fits : Fits quanta)
    (positive : 0 < denominator) : roundQuanta (quanta * denominator) denominator = quanta := by
  obtain ⟨multiple, shape⟩ := fits.2
  have exact : quanta * denominator = multiple * (denominator * spacing quanta) := by
    rw [Nat.mul_comm multiple, Nat.mul_assoc, ← shape, Nat.mul_comm]
  rw [roundQuanta, Nat.mul_div_cancel _ positive, exact,
    roundQuotient_mul_self _ (Nat.mul_pos positive (spacing_pos _)), Nat.mul_comm, ← shape]

namespace Double

theorem round_mul_right (negative : Bool) (numerator denominator : Nat) {factor : Nat}
    (positive : 0 < factor) :
    round negative (numerator * factor) (denominator * factor) =
      round negative numerator denominator := by
  rw [round, round, roundQuanta_mul_right _ _ positive]

theorem round_of_fits (negative : Bool) {numerator denominator : Nat}
    (fits : Fits (roundQuanta numerator denominator)) :
    round negative numerator denominator = .finite negative _ fits := by
  rw [round, dif_pos fits]

/-- A number that a double has is rounded to itself. -/
theorem round_mul_self (negative : Bool) {quanta denominator : Nat} (fits : Fits quanta)
    (positive : 0 < denominator) :
    round negative (quanta * denominator) denominator = .finite negative quanta fits := by
  have same := roundQuanta_mul_self fits positive
  rw [round_of_fits negative (by rwa [same]), finite.injEq]
  exact ⟨rfl, same⟩

end Double

namespace Decimal

theorem toDouble_eq_round {decimal : Decimal} (notHuge : decimal.isHuge = false)
    (notTiny : decimal.isTiny = false) :
    decimal.toDouble = .round decimal.negative decimal.quanta.1 decimal.quanta.2 := by
  rw [toDouble, notHuge, notTiny, if_neg Bool.false_ne_true, if_neg Bool.false_ne_true]

/-- The value of a decimal is infinite, or a finite number with the sign of the decimal that does
not depend on this sign. -/
theorem toDouble_cases (decimal : Decimal) :
    decimal.toDouble = .infinite decimal.negative ∨
      ∃ quanta fits, ∀ negative,
        { decimal with negative }.toDouble = .finite negative quanta fits := by
  by_cases huge : decimal.isHuge = true
  · left
    rw [toDouble, if_pos huge]
  by_cases tiny : decimal.isTiny = true
  · refine Or.inr ⟨0, fits_zero, fun negative => ?_⟩
    have sameHuge : ({ decimal with negative } : Decimal).isHuge = decimal.isHuge := rfl
    have sameTiny : ({ decimal with negative } : Decimal).isTiny = decimal.isTiny := rfl
    rw [toDouble, sameHuge, sameTiny, if_neg huge, if_pos tiny]
  rw [Bool.not_eq_true] at huge tiny
  by_cases fits : Fits (roundQuanta decimal.quanta.1 decimal.quanta.2)
  · refine Or.inr ⟨_, fits, fun negative => ?_⟩
    have sameHuge : ({ decimal with negative } : Decimal).isHuge = false := huge
    have sameTiny : ({ decimal with negative } : Decimal).isTiny = false := tiny
    rw [toDouble_eq_round sameHuge sameTiny]
    exact Double.round_of_fits negative fits
  · left
    rw [toDouble_eq_round huge tiny, Double.round, dif_neg fits]

/-- The sign of a decimal is the sign of its double. -/
theorem toDouble_withSign {decimal : Decimal} {quanta : Nat} {fits : Fits quanta} {sign : Bool}
    (value : decimal.toDouble = .finite sign quanta fits) (negative : Bool) :
    { decimal with negative }.toDouble = .finite negative quanta fits := by
  rcases toDouble_cases decimal with infinite | ⟨other, otherFits, finite⟩
  · rw [infinite] at value
    cases value
  · have own := finite decimal.negative
    rw [value, Double.finite.injEq] at own
    obtain ⟨_, rfl⟩ := own
    exact finite negative

theorem toDouble_of_magnitude {decimal : Decimal} {quanta : Nat} (fits : Fits quanta)
    (value : decimal.toDouble.magnitude = quanta) :
    decimal.toDouble = .finite decimal.negative quanta fits := by
  rcases toDouble_cases decimal with infinite | ⟨other, otherFits, finite⟩
  · rw [infinite, Double.magnitude] at value
    exact absurd fits.1 (by omega)
  · have own := finite decimal.negative
    rw [own, Double.magnitude] at value
    subst value
    exact own

theorem isTiny_of_exponent {decimal : Decimal} (given : decimal.coefficient ≠ 0)
    (large : -400 ≤ decimal.exponent) : decimal.isTiny = false := by
  simp only [isTiny, Bool.or_eq_false_iff, beq_eq_false_iff_ne, decide_eq_false_iff_not]
  exact ⟨given, by omega⟩

theorem isHuge_of_exponent {decimal : Decimal} (small : decimal.exponent ≤ 400) :
    decimal.isHuge = false := by
  simp only [isHuge, Bool.and_eq_false_iff, decide_eq_false_iff_not]
  exact Or.inr (by omega)

theorem quanta_of_natCast (negative : Bool) (coefficient power : Nat) :
    ({ negative, coefficient, exponent := (power : Int) } : Decimal).quanta =
      (coefficient * Nat.pow 10 power * unit, 1) := rfl

theorem quanta_of_negSucc (negative : Bool) (coefficient power : Nat) :
    ({ negative, coefficient, exponent := .negSucc power } : Decimal).quanta =
      (coefficient * unit, Nat.pow 10 (power + 1)) := rfl

theorem toDouble_zero (exponent : Int) :
    ({ coefficient := 0, exponent } : Decimal).toDouble = .finite false 0 fits_zero := rfl

/-- A whole number may be written with a point and one more zero. -/
theorem toDouble_pointZero (coefficient : Nat) {zeros : Nat} (small : zeros ≤ 400) :
    ({ coefficient := coefficient * Nat.pow 10 (zeros + 1), exponent := .negSucc 0 } :
        Decimal).toDouble =
      ({ coefficient, exponent := (zeros : Int) } : Decimal).toDouble := by
  rcases Nat.eq_zero_or_pos coefficient with rfl | positive
  · rw [Nat.zero_mul, toDouble_zero, toDouble_zero]
  have given : coefficient * Nat.pow 10 (zeros + 1) ≠ 0 :=
    Nat.ne_of_gt (Nat.mul_pos positive (Nat.pow_pos (by decide)))
  have scaled : coefficient * Nat.pow 10 (zeros + 1) * unit =
      coefficient * Nat.pow 10 zeros * unit * 10 := by
    rw [show Nat.pow 10 (zeros + 1) = Nat.pow 10 zeros * 10 from rfl, ← Nat.mul_assoc,
      Nat.mul_right_comm]
  rw [toDouble_eq_round (isHuge_of_exponent (by change Int.negSucc 0 ≤ 400; decide))
      (isTiny_of_exponent given (by change (-400 : Int) ≤ Int.negSucc 0; decide)),
    toDouble_eq_round (isHuge_of_exponent (by change (zeros : Int) ≤ 400; omega))
      (isTiny_of_exponent (Nat.ne_of_gt positive) (by change (-400 : Int) ≤ (zeros : Int); omega)),
    quanta_of_natCast, quanta_of_negSucc, scaled]
  exact Double.round_mul_right false _ 1 (by decide)

theorem toDouble_natural {number : Nat} (fits : Fits (number * unit)) :
    ({ coefficient := number } : Decimal).toDouble = .finite false (number * unit) fits := by
  rcases Nat.eq_zero_or_pos number with rfl | positive
  · rw [toDouble_zero, Double.finite.injEq]
    exact ⟨rfl, (Nat.zero_mul _).symm⟩
  have given : number ≠ 0 := Nat.ne_of_gt positive
  have power : ({ coefficient := number } : Decimal).quanta = (number * unit * 1, 1) := by
    rw [Nat.mul_one]
    have one : Nat.pow 10 0 = 1 := rfl
    exact (quanta_of_natCast false number 0).trans (by rw [one, Nat.mul_one])
  have small : ({ coefficient := number } : Decimal).exponent = 0 := rfl
  rw [toDouble_eq_round (isHuge_of_exponent (by omega)) (isTiny_of_exponent given (by omega)),
    power]
  exact Double.round_mul_self false fits (by decide)

end Decimal

/-! ## The shortest decimal -/

theorem candidate?_value {quanta coefficient : Nat} {exponent : Int} {decimal : Decimal}
    (found : candidate? quanta coefficient exponent = some decimal) :
    decimal.negative = false ∧ decimal.toDouble.magnitude = quanta := by
  rw [candidate?] at found
  split at found
  · rename_i reads
    cases found
    exact ⟨rfl, reads⟩
  · cases found

theorem neighbour?_value {quanta digits : Nat} {decimal : Decimal}
    (found : neighbour? quanta digits = some decimal) :
    decimal.negative = false ∧ decimal.toDouble.magnitude = quanta := by
  rw [neighbour?] at found
  split at found
  · rcases Option.or_eq_some_iff.1 found with lower | ⟨_, upper⟩
    · exact candidate?_value lower
    · exact candidate?_value upper
  · rcases Option.or_eq_some_iff.1 found with upper | ⟨_, lower⟩
    · exact candidate?_value upper
    · exact candidate?_value lower

theorem quanta_exactDecimal (quanta : Nat) :
    (exactDecimal quanta).quanta = (quanta * (Nat.pow 5 depth * unit), Nat.pow 5 depth * unit) := by
  have tens : Nat.pow 10 depth = Nat.pow 5 depth * unit := Nat.mul_pow 5 2 depth
  have below : -(depth : Int) = .negSucc (depth - 1) := by
    rw [Int.negSucc_eq]
    have positive := depth_pos
    omega
  rw [exactDecimal, below, Decimal.quanta_of_negSucc, Nat.sub_add_cancel depth_pos, tens,
    Nat.mul_assoc]

theorem toDouble_exactDecimal {quanta : Nat} (fits : Fits quanta) :
    (exactDecimal quanta).toDouble = .finite false quanta fits := by
  rcases Nat.eq_zero_or_pos quanta with rfl | positive
  · rw [exactDecimal, Nat.zero_mul, Decimal.toDouble_zero]
  have fives : 0 < Nat.pow 5 depth := Nat.pow_pos (by decide)
  have given : quanta * Nat.pow 5 depth ≠ 0 := Nat.ne_of_gt (Nat.mul_pos positive fives)
  have long : depth ≤ (quanta * Nat.pow 5 depth).log2 := by
    rw [Nat.le_log2 given]
    exact Nat.le_trans (Nat.pow_le_pow_left (show 2 ≤ 5 by decide) depth)
      (Nat.le_mul_of_pos_left _ positive)
  have notTiny : (exactDecimal quanta).isTiny = false := by
    rw [Decimal.isTiny, Bool.or_eq_false_iff, beq_eq_false_iff_ne, decide_eq_false_iff_not]
    refine ⟨given, ?_⟩
    change ¬(-(depth : Int) + ((quanta * Nat.pow 5 depth).log2 + 1 : Nat) < -400)
    omega
  have notHuge : (exactDecimal quanta).isHuge = false := by
    refine Decimal.isHuge_of_exponent ?_
    change -(depth : Int) ≤ 400
    omega
  rw [Decimal.toDouble_eq_round notHuge notTiny, quanta_exactDecimal]
  exact Double.round_mul_self false fits (Nat.mul_pos fives unit_pos)

/-- The shortest decimal of a double has that double as its value. -/
theorem toDouble_shortest {quanta : Nat} (fits : Fits quanta) :
    (shortest quanta).negative = false ∧
      (shortest quanta).toDouble = .finite false quanta fits := by
  rw [shortest]
  cases found : (List.range' 1 17).findSome? (neighbour? quanta) with
  | none => exact ⟨rfl, toDouble_exactDecimal fits⟩
  | some decimal =>
      obtain ⟨digits, _, reads⟩ := List.exists_of_findSome?_eq_some found
      obtain ⟨plain, magnitude⟩ := neighbour?_value reads
      refine ⟨plain, ?_⟩
      have value := Decimal.toDouble_of_magnitude fits magnitude
      rwa [plain] at value

end FrameScript.Number
