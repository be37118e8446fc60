import FrameScript.Proofs.Number.Rounding
import Mathlib.Algebra.Order.Field.Power
import Mathlib.Data.Rat.Cast.Order
import Mathlib.Tactic.FieldSimp
import Mathlib.Tactic.Linarith
import Mathlib.Tactic.Positivity

/-!
# The nearest number

A quotient of quanta is rounded to the number nearest to it, and to the even one of two that are
equally near.  The numbers lie on a grid whose spacing doubles with every power of two, so a number
off the grid around the quotient lies below the power of two that begins this part of the grid, and
that power is nearer.  The double of a decimal is the nearest one, also where it is told without
rounding that the decimal is far outside of the finite range.
-/

namespace FrameScript.Number

attribute [local irreducible] depth width

variable {numerator denominator : Nat}

theorem quotient_eq (numerator : Nat) (positive : 0 < denominator) :
    (numerator / denominator : ℚ) =
      (numerator / denominator : ℕ) + (numerator % denominator : ℕ) / denominator := by
  have given : (denominator : ℚ) ≠ 0 := by exact_mod_cast positive.ne'
  rw [div_eq_iff given, add_mul, div_mul_cancel₀ _ given]
  exact_mod_cast (Nat.div_add_mod' numerator denominator).symm

/-- A quotient is less than one half from the whole number to which it is rounded, or just one half
from an even one. -/
theorem abs_sub_roundQuotient (numerator : Nat) (positive : 0 < denominator) :
    |(numerator / denominator : ℚ) - roundQuotient numerator denominator| < 1 / 2 ∨
      |(numerator / denominator : ℚ) - roundQuotient numerator denominator| = 1 / 2 ∧
        roundQuotient numerator denominator % 2 = 0 := by
  have given : (0 : ℚ) < denominator := by exact_mod_cast positive
  rw [quotient_eq numerator positive, roundQuotient]
  have bounded := Nat.mod_lt numerator positive
  generalize numerator / denominator = quotient
  generalize numerator % denominator = rest at bounded ⊢
  have part : 0 ≤ (rest / denominator : ℚ) ∧ (rest / denominator : ℚ) < 1 :=
    ⟨by positivity, (div_lt_one given).2 (by exact_mod_cast bounded)⟩
  split
  · rename_i small
    have half : (rest / denominator : ℚ) < 1 / 2 := by
      rw [div_lt_div_iff₀ given two_pos]
      exact_mod_cast (by omega : rest * 2 < 1 * denominator)
    left
    rw [abs_lt]
    constructor <;> linarith
  rename_i notSmall
  split
  · rename_i large
    have half : 1 / 2 < (rest / denominator : ℚ) := by
      rw [div_lt_div_iff₀ two_pos given]
      exact_mod_cast (by omega : 1 * denominator < rest * 2)
    left
    push_cast
    rw [abs_lt]
    constructor <;> linarith
  rename_i notLarge
  have half : (rest / denominator : ℚ) = 1 / 2 := by
    rw [div_eq_div_iff given.ne' two_ne_zero]
    exact_mod_cast (by omega : rest * 2 = 1 * denominator)
  right
  rw [half]
  split
  · rename_i even
    refine ⟨?_, even⟩
    rw [add_sub_cancel_left]
    norm_num
  · rename_i odd
    refine ⟨?_, by omega⟩
    push_cast
    rw [add_sub_add_left_eq_sub]
    norm_num

theorem one_le_abs_sub {first second : Nat} (different : first ≠ second) :
    1 ≤ |(first - second : ℚ)| := by
  have apart : (first - second : ℤ) ≠ 0 := by omega
  exact_mod_cast Int.one_le_abs apart

/-- No other whole number is nearer to a quotient, and one that is equally near finds it rounded to
an even one. -/
theorem roundQuotient_nearest (numerator : Nat) (positive : 0 < denominator) (other : Nat) :
    |(numerator / denominator : ℚ) - roundQuotient numerator denominator| ≤
        |(numerator / denominator : ℚ) - other| ∧
      (other ≠ roundQuotient numerator denominator →
        |(numerator / denominator : ℚ) - other| =
            |(numerator / denominator : ℚ) - roundQuotient numerator denominator| →
          roundQuotient numerator denominator % 2 = 0) := by
  have near := abs_sub_roundQuotient numerator positive
  generalize roundQuotient numerator denominator = rounded at near ⊢
  generalize (numerator / denominator : ℚ) = value at near ⊢
  by_cases same : other = rounded
  · subst same
    exact ⟨le_refl _, fun different => absurd rfl different⟩
  have apart := one_le_abs_sub same
  have triangle := abs_sub_le (other : ℚ) value rounded
  rw [abs_sub_comm (other : ℚ) value] at triangle
  rcases near with inside | ⟨half, even⟩
  · exact ⟨by linarith, fun _ equal => by linarith⟩
  · exact ⟨by linarith, fun _ _ => even⟩

/-- A number of quanta that a double of unlimited range has. -/
def OnGrid (quanta : Nat) : Prop := spacing quanta ∣ quanta

theorem Fits.onGrid {quanta : Nat} (fits : Fits quanta) : OnGrid quanta := fits.2

theorem onGrid_zero : OnGrid 0 := Nat.dvd_zero _

theorem twoPower_dvd {first second : Nat} (le : first ≤ second) :
    twoPower first ∣ twoPower second :=
  Nat.pow_dvd_pow 2 le

theorem spacing_dvd_spacing {first second : Nat} (le : first.log2 ≤ second.log2) :
    spacing first ∣ spacing second :=
  twoPower_dvd (Nat.sub_le_sub_right le 52)

theorem spacing_dvd_twoPower (quanta : Nat) : spacing quanta ∣ twoPower quanta.log2 :=
  twoPower_dvd (Nat.sub_le _ _)

theorem log2_twoPower (exponent : Nat) : (twoPower exponent).log2 = exponent :=
  Nat.log2_two_pow

/-- A number on the grid is a multiple of the spacing around another, or it lies below the power of
two with which the grid there begins. -/
theorem OnGrid.dvd_or_lt {quanta other : Nat} (onGrid : OnGrid quanta) :
    spacing other ∣ quanta ∨ quanta < twoPower other.log2 ∧ other ≠ 0 := by
  by_cases below : quanta < twoPower other.log2
  · by_cases zero : other = 0
    · subst zero
      left
      exact Nat.one_dvd quanta
    · exact Or.inr ⟨below, zero⟩
  · left
    have given : quanta ≠ 0 := by
      rintro rfl
      exact below (twoPower_pos _)
    have reaches : other.log2 ≤ quanta.log2 := (Nat.le_log2 given).2 (Nat.le_of_not_lt below)
    exact (spacing_dvd_spacing reaches).trans onGrid

theorem twoPower_log2_le {quanta : Nat} (given : quanta ≠ 0) : twoPower quanta.log2 ≤ quanta :=
  Nat.log2_self_le given

theorem lt_twoPower_log2 (quanta : Nat) : quanta < twoPower (quanta.log2 + 1) :=
  Nat.lt_log2_self

/-- Around a multiple of the spacing up to the next power of two, that power included, the spacing
is no coarser; and so it is for every other multiple. -/
theorem spacing_mul_dvd {quanta other factor : Nat} (le : quanta ≤ twoPower (other.log2 + 1))
    (divides : factor ∣ 2) (multiple : spacing other * factor ∣ quanta) :
    spacing quanta * factor ∣ quanta := by
  rcases Nat.lt_or_eq_of_le le with below | exact
  · have low : quanta.log2 ≤ other.log2 := by
      by_cases zero : quanta = 0
      · subst zero
        exact Nat.zero_le _
      · exact Nat.le_of_lt_succ ((Nat.log2_lt zero).2 below)
    exact (Nat.mul_dvd_mul_right (spacing_dvd_spacing low) factor).trans multiple
  · have doubled : spacing quanta * 2 ∣ quanta := by
      rw [exact, spacing, log2_twoPower, ← twoPower_succ]
      exact twoPower_dvd (by omega)
    exact (Nat.mul_dvd_mul_left _ divides).trans doubled

/-! ## Rounding to the grid -/

/-- A number on the grid to which no other is nearer, and even if another is equally near. -/
structure Nearest (value : ℚ) (quanta : Nat) : Prop where
  onGrid : OnGrid quanta
  least : ∀ other, OnGrid other → |value - quanta| ≤ |value - other|
  even : ∀ other, OnGrid other → other ≠ quanta → |value - other| = |value - quanta| →
    spacing quanta * 2 ∣ quanta

section

variable (numerator) (positive : 0 < denominator)

include positive

theorem abs_sub_mul (multiple : Nat) {step : Nat} (given : 0 < step) :
    |(numerator / denominator : ℚ) - (multiple * step : ℕ)| =
      |(numerator / (denominator * step : ℕ) : ℚ) - multiple| * step := by
  have below : (0 : ℚ) < denominator := by exact_mod_cast positive
  have factor : (0 : ℚ) < step := by exact_mod_cast given
  rw [← abs_of_pos factor, ← abs_mul]
  congr 1
  push_cast
  field_simp

/-- Among the multiples of the spacing around a quotient, none is nearer to it than the one to which
it is rounded. -/
theorem roundQuanta_nearest_multiple {other : Nat}
    (multiple : spacing (numerator / denominator) ∣ other) :
    |(numerator / denominator : ℚ) - roundQuanta numerator denominator| ≤
        |(numerator / denominator : ℚ) - other| ∧
      (other ≠ roundQuanta numerator denominator →
        |(numerator / denominator : ℚ) - other| =
            |(numerator / denominator : ℚ) - roundQuanta numerator denominator| →
          spacing (numerator / denominator) * 2 ∣ roundQuanta numerator denominator) := by
  have given := spacing_pos (numerator / denominator)
  rw [roundQuanta]
  generalize spacing (numerator / denominator) = step at given multiple ⊢
  obtain ⟨count, rfl⟩ := multiple
  have factor : (0 : ℚ) < step := by exact_mod_cast given
  obtain ⟨least, even⟩ := roundQuotient_nearest numerator (Nat.mul_pos positive given) count
  rw [Nat.mul_comm step count, abs_sub_mul numerator positive _ given,
    abs_sub_mul numerator positive _ given]
  refine ⟨mul_le_mul_of_nonneg_right least factor.le, fun different equal => ?_⟩
  have same := mul_right_cancel₀ factor.ne' equal
  have halved := even (fun equal => different (by rw [equal])) same
  rw [Nat.mul_comm step 2]
  exact Nat.mul_dvd_mul_right (Nat.dvd_of_mod_eq_zero halved) step

theorem twoPower_le_quotient (given : numerator / denominator ≠ 0) :
    (twoPower (numerator / denominator).log2 : ℚ) ≤ numerator / denominator := by
  have below : (0 : ℚ) < denominator := by exact_mod_cast positive
  rw [le_div_iff₀ below]
  exact_mod_cast (Nat.le_div_iff_mul_le positive).1 (twoPower_log2_le given)

theorem quotient_lt_twoPower :
    (numerator / denominator : ℚ) < twoPower ((numerator / denominator).log2 + 1) := by
  have below : (0 : ℚ) < denominator := by exact_mod_cast positive
  rw [div_lt_iff₀ below]
  exact_mod_cast (Nat.div_lt_iff_lt_mul positive).1 (lt_twoPower_log2 _)

theorem roundQuanta_le_twoPower :
    roundQuanta numerator denominator ≤ twoPower ((numerator / denominator).log2 + 1) := by
  have multiple : spacing (numerator / denominator) ∣
      twoPower ((numerator / denominator).log2 + 1) :=
    twoPower_dvd (by omega)
  have least := (roundQuanta_nearest_multiple numerator positive multiple).1
  have below := quotient_lt_twoPower numerator positive
  by_contra above
  have beyond : (twoPower ((numerator / denominator).log2 + 1) : ℚ) <
      roundQuanta numerator denominator := by
    exact_mod_cast Nat.lt_of_not_le above
  rw [abs_of_neg (by linarith), abs_of_neg (by linarith)] at least
  linarith

/-- A quotient of quanta is rounded to the nearest number on the grid. -/
theorem nearest_roundQuanta :
    Nearest (numerator / denominator) (roundQuanta numerator denominator) := by
  have bounded := roundQuanta_le_twoPower numerator positive
  have onGrid : spacing (numerator / denominator) * 1 ∣ roundQuanta numerator denominator := by
    rw [Nat.mul_one]
    exact Nat.dvd_mul_left _ _
  have farther {other : Nat} (low : other < twoPower (numerator / denominator).log2)
      (given : numerator / denominator ≠ 0) :
      |(numerator / denominator : ℚ) - roundQuanta numerator denominator| <
        |(numerator / denominator : ℚ) - other| := by
    have start := twoPower_le_quotient numerator positive given
    have least := (roundQuanta_nearest_multiple numerator positive
      (spacing_dvd_twoPower (numerator / denominator))).1
    have less : (other : ℚ) < twoPower (numerator / denominator).log2 := by exact_mod_cast low
    rw [abs_of_nonneg (by linarith : (0 : ℚ) ≤ numerator / denominator - twoPower _)] at least
    rw [abs_of_pos (by linarith : (0 : ℚ) < numerator / denominator - other)]
    linarith
  refine ⟨?_, fun other otherOnGrid => ?_, fun other otherOnGrid different equal => ?_⟩
  · have divides := spacing_mul_dvd bounded (Nat.one_dvd 2) onGrid
    rwa [Nat.mul_one] at divides
  · rcases otherOnGrid.dvd_or_lt with multiple | ⟨low, given⟩
    · exact (roundQuanta_nearest_multiple numerator positive multiple).1
    · exact (farther low given).le
  · rcases otherOnGrid.dvd_or_lt with multiple | ⟨low, given⟩
    · exact spacing_mul_dvd bounded (dvd_refl 2)
        ((roundQuanta_nearest_multiple numerator positive multiple).2 different equal)
    · exact absurd equal (farther low given).ne'

end

namespace Nearest

variable {value : ℚ} {quanta other : Nat} (nearest : Nearest value quanta)

include nearest

theorem eq_zero (above : 0 ≤ value) (below : value < 1 / 2) : quanta = 0 := by
  have least := nearest.least 0 onGrid_zero
  rw [Nat.cast_zero, sub_zero, abs_of_nonneg above, abs_le] at least
  have small : (quanta : ℚ) < 1 := by linarith
  exact Nat.lt_one_iff.1 (by exact_mod_cast small)

theorem le_of_le (onGrid : OnGrid other) (le : other ≤ value) : other ≤ quanta := by
  by_contra above
  have less : (quanta : ℚ) < other := by exact_mod_cast Nat.lt_of_not_le above
  have least := nearest.least other onGrid
  rw [abs_of_nonneg (by linarith), abs_of_nonneg (by linarith)] at least
  linarith

end Nearest

/-! ## Decimals -/

namespace Decimal

variable {decimal : Decimal}

/-- The magnitude of a decimal number in quanta. -/
def value (decimal : Decimal) : ℚ := decimal.coefficient * 10 ^ decimal.exponent * unit

/-- The nearest number of quanta. -/
def rounded (decimal : Decimal) : Nat := roundQuanta decimal.quanta.1 decimal.quanta.2

theorem quanta_pos (decimal : Decimal) : 0 < decimal.quanta.2 := by
  rw [quanta]
  split
  · exact Nat.one_pos
  · exact Nat.pow_pos (by decide)

theorem natCast_pow_ten (exponent : Nat) :
    ((Nat.pow 10 exponent : ℕ) : ℚ) = 10 ^ (exponent : ℤ) := by
  rw [zpow_natCast]
  exact Nat.cast_pow 10 exponent

theorem quanta_value (decimal : Decimal) :
    (decimal.quanta.1 / decimal.quanta.2 : ℚ) = decimal.value := by
  obtain ⟨negative, coefficient, exponent⟩ := decimal
  cases exponent with
  | ofNat power =>
      change ((coefficient * Nat.pow 10 power * unit : ℕ) / (1 : ℕ) : ℚ) =
        coefficient * 10 ^ (power : ℤ) * unit
      rw [Nat.cast_mul, Nat.cast_mul, natCast_pow_ten, Nat.cast_one, div_one]
  | negSucc power =>
      change ((coefficient * unit : ℕ) / (Nat.pow 10 (power + 1) : ℕ) : ℚ) =
        coefficient * 10 ^ (Int.negSucc power) * unit
      rw [Nat.cast_mul, natCast_pow_ten, zpow_negSucc, zpow_natCast]
      field_simp

theorem nearest_rounded (decimal : Decimal) : Nearest decimal.value decimal.rounded := by
  rw [← quanta_value]
  exact nearest_roundQuanta _ decimal.quanta_pos

theorem value_nonneg (decimal : Decimal) : 0 ≤ decimal.value := by
  rw [value]
  positivity

theorem ten_zpow_pos (exponent : Int) : (0 : ℚ) < 10 ^ exponent := zpow_pos (by norm_num) exponent

theorem ten_zpow_le {first second : Int} (le : first ≤ second) :
    (10 : ℚ) ^ first ≤ 10 ^ second :=
  zpow_le_zpow_right₀ (by norm_num) le

theorem unit_lt_ten_zpow : (2 * unit : ℚ) < 10 ^ (400 : ℤ) := by
  have bound : 2 * unit < Nat.pow 10 200 * Nat.pow 10 200 := by decide +kernel
  calc (2 * unit : ℚ) = (2 * unit : ℕ) := by
        push_cast
        rfl
    _ < (Nat.pow 10 200 * Nat.pow 10 200 : ℕ) := Nat.cast_lt.2 bound
    _ = 10 ^ (400 : ℤ) := by
        rw [Nat.cast_mul, natCast_pow_ten, ← zpow_add₀ (by norm_num)]
        rfl

theorem overflow_le_ten_zpow : (overflow : ℚ) ≤ 10 ^ (400 : ℤ) * unit := by
  have bound : overflow ≤ Nat.pow 10 200 * Nat.pow 10 200 * unit := by decide +kernel
  calc (overflow : ℚ) ≤ (Nat.pow 10 200 * Nat.pow 10 200 * unit : ℕ) := Nat.cast_le.2 bound
    _ = 10 ^ (400 : ℤ) * unit := by
        rw [Nat.cast_mul, Nat.cast_mul, natCast_pow_ten, ← zpow_add₀ (by norm_num)]
        rfl

theorem value_lt_of_isTiny (tiny : decimal.isTiny = true) : decimal.value < 1 / 2 := by
  rw [isTiny, Bool.or_eq_true, beq_iff_eq, decide_eq_true_eq] at tiny
  rcases tiny with zero | small
  · rw [value, zero]
    norm_num
  have digits : (decimal.coefficient : ℚ) ≤ 10 ^ ((decimal.coefficient.log2 + 1 : ℕ) : ℤ) := by
    have binary : decimal.coefficient ≤ Nat.pow 10 (decimal.coefficient.log2 + 1) :=
      Nat.le_trans Nat.lt_log2_self.le (Nat.pow_le_pow_left (by decide) _)
    rw [← natCast_pow_ten]
    exact Nat.cast_le.2 binary
  have low : ((decimal.coefficient.log2 + 1 : ℕ) : ℤ) + decimal.exponent ≤ -400 := by omega
  have positive : (0 : ℚ) ≤ unit := Nat.cast_nonneg unit
  calc decimal.value
      ≤ 10 ^ ((decimal.coefficient.log2 + 1 : ℕ) : ℤ) * 10 ^ decimal.exponent * unit :=
        mul_le_mul_of_nonneg_right
          (mul_le_mul_of_nonneg_right digits (ten_zpow_pos _).le) positive
    _ ≤ 10 ^ (-400 : ℤ) * unit := by
        rw [← zpow_add₀ (by norm_num)]
        exact mul_le_mul_of_nonneg_right (ten_zpow_le low) positive
    _ < 1 / 2 := by
        rw [zpow_neg, inv_mul_lt_iff₀ (ten_zpow_pos _), mul_one_div, lt_div_iff₀ two_pos,
          mul_comm]
        exact unit_lt_ten_zpow

theorem overflow_le_of_isHuge (huge : decimal.isHuge = true) :
    (overflow : ℚ) ≤ decimal.value := by
  rw [isHuge, Bool.and_eq_true, bne_iff_ne, decide_eq_true_eq] at huge
  obtain ⟨given, large⟩ := huge
  have one : (1 : ℚ) ≤ decimal.coefficient := by exact_mod_cast Nat.pos_of_ne_zero given
  have positive : (0 : ℚ) ≤ unit := Nat.cast_nonneg unit
  calc (overflow : ℚ) ≤ 10 ^ (400 : ℤ) * unit := overflow_le_ten_zpow
    _ ≤ 10 ^ decimal.exponent * unit :=
        mul_le_mul_of_nonneg_right (ten_zpow_le large.le) positive
    _ ≤ decimal.value :=
        mul_le_mul_of_nonneg_right (le_mul_of_one_le_left (ten_zpow_pos _).le one) positive

theorem onGrid_overflow : OnGrid overflow := by
  rw [OnGrid, overflow, spacing, log2_twoPower]
  exact twoPower_dvd (Nat.sub_le _ _)

/-- The double of a decimal is the one to which it is rounded, whether or not it is told beforehand
that it is far outside of the finite range. -/
theorem toDouble_eq (decimal : Decimal) :
    decimal.toDouble = .round decimal.negative decimal.quanta.1 decimal.quanta.2 := by
  have nearest := decimal.nearest_rounded
  by_cases huge : decimal.isHuge = true
  · have beyond := nearest.le_of_le onGrid_overflow (overflow_le_of_isHuge huge)
    have unfit : ¬Fits (roundQuanta decimal.quanta.1 decimal.quanta.2) :=
      fun fits => Nat.not_lt_of_le beyond fits.1
    rw [toDouble, if_pos huge, Double.round, dif_neg unfit]
  by_cases tiny : decimal.isTiny = true
  · have zero := nearest.eq_zero decimal.value_nonneg (value_lt_of_isTiny tiny)
    rw [rounded] at zero
    rw [toDouble, if_neg huge, if_pos tiny, Double.round_of_fits _ (by rw [zero]; exact fits_zero),
      Double.finite.injEq]
    exact ⟨rfl, zero.symm⟩
  · exact toDouble_eq_round (Bool.eq_false_iff.2 huge) (Bool.eq_false_iff.2 tiny)

/-- The double nearest to a decimal, ties going to the even one: finite with the sign of the
decimal, or infinite if the nearest number of quanta is out of range. -/
def RoundsTo (decimal : Decimal) (double : Double) : Prop :=
  ∃ quanta, Nearest decimal.value quanta ∧
    double =
      if fits : Fits quanta then .finite decimal.negative quanta fits
      else .infinite decimal.negative

theorem roundsTo_toDouble (decimal : Decimal) : decimal.RoundsTo decimal.toDouble :=
  ⟨_, decimal.nearest_rounded, decimal.toDouble_eq⟩

/-- A decimal is read as a finite number exactly when it is rounded to its quanta. -/
theorem magnitude_toDouble_iff {quanta : Nat} (fits : Fits quanta) :
    decimal.toDouble.magnitude = quanta ↔ decimal.rounded = quanta := by
  rw [toDouble_eq, Double.round]
  by_cases inside : Fits (roundQuanta decimal.quanta.1 decimal.quanta.2)
  · rw [dif_pos inside]
    rfl
  · rw [dif_neg inside]
    have unequal : decimal.rounded ≠ quanta := by
      rintro rfl
      exact inside fits
    exact ⟨fun equal => absurd fits.1 (by rw [← equal]; exact lt_irrefl _),
      fun equal => absurd equal unequal⟩

theorem rounded_congr {other : Decimal} (same : decimal.value = other.value) :
    decimal.rounded = other.rounded := by
  have first := decimal.quanta_pos
  have second := other.quanta_pos
  have cross : decimal.quanta.1 * other.quanta.2 = other.quanta.1 * decimal.quanta.2 := by
    rw [← quanta_value, ← quanta_value, div_eq_div_iff (by exact_mod_cast first.ne')
      (by exact_mod_cast second.ne')] at same
    exact_mod_cast same
  rw [rounded, ← roundQuanta_mul_right _ _ second, cross, Nat.mul_comm decimal.quanta.2,
    roundQuanta_mul_right _ _ first, rounded]

end Decimal

end FrameScript.Number
