import FrameScript.Proofs.Number.Nearest
import FrameScript.Proofs.Number.ReadBack
import Mathlib.Tactic.NormNum

/-!
# The shortest decimal

The search for the decimal that writes a number goes through grids of more and more digits.  On each
grid only the two neighbours of the number are tried, and that is enough: if any decimal with so
many digits reads back, then so does a neighbour, because it lies between that decimal and the
number.  Seventeen digits always suffice, because the neighbours on that grid are nearer to the
number than to any other.
-/

namespace FrameScript.Number

attribute [local irreducible] depth width

theorem lt_spacing_mul (quanta : Nat) : quanta < spacing quanta * twoPower 53 := by
  refine Nat.lt_of_lt_of_le (lt_twoPower_log2 quanta) ?_
  rw [spacing, twoPower, twoPower, twoPower]
  change 2 ^ (quanta.log2 + 1) ≤ 2 ^ (quanta.log2 - 52) * 2 ^ 53
  rw [← Nat.pow_add]
  exact Nat.pow_le_pow_right (by decide) (by omega)

/-- The next number on the grid is at least the spacing away. -/
theorem OnGrid.add_spacing_le {first second : Nat} (firstOnGrid : OnGrid first)
    (secondOnGrid : OnGrid second) (less : first < second) : first + spacing first ≤ second := by
  have given : second ≠ 0 := by omega
  have divides : spacing first ∣ second := by
    refine (spacing_dvd_spacing ?_).trans secondOnGrid
    by_cases zero : first = 0
    · subst zero
      exact Nat.zero_le _
    · exact (Nat.le_log2 given).2 (Nat.le_trans (twoPower_log2_le zero) less.le)
  have apart := Nat.le_of_dvd (Nat.sub_pos_of_lt less) (Nat.dvd_sub divides firstOnGrid)
  omega

namespace Decimal

variable {decimal other : Decimal} {quanta : Nat}

/-- What lies between a decimal and the number to which it is rounded is rounded to this number. -/
theorem rounded_of_between (reads : other.rounded = quanta)
    (between : other.value ≤ decimal.value ∧ decimal.value ≤ quanta ∨
      quanta ≤ decimal.value ∧ decimal.value ≤ other.value) : decimal.rounded = quanta := by
  by_cases same : decimal.value = other.value
  · rw [rounded_congr same, reads]
  have nearest := other.nearest_rounded
  rw [reads] at nearest
  have own := decimal.nearest_rounded.least quanta nearest.onGrid
  have theirs := nearest.least decimal.rounded decimal.nearest_rounded.onGrid
  suffices equal : (decimal.rounded : ℚ) = quanta by exact_mod_cast equal
  generalize (decimal.rounded : ℚ) = rounded at own theirs ⊢
  -- Were the rounded number on the near side, it would be nearer to the other decimal, too.
  rcases between with ⟨above, below⟩ | ⟨above, below⟩
  · have strict := lt_of_le_of_ne above (Ne.symm same)
    rw [abs_of_nonpos (by linarith : decimal.value - quanta ≤ 0), abs_le] at own
    rw [abs_of_nonpos (by linarith : other.value - quanta ≤ 0), le_abs] at theirs
    rcases theirs with far | far <;> linarith
  · have strict := lt_of_le_of_ne below same
    rw [abs_of_nonneg (by linarith : 0 ≤ decimal.value - quanta), abs_le] at own
    rw [abs_of_nonneg (by linarith : 0 ≤ other.value - quanta), le_abs] at theirs
    rcases theirs with far | far <;> linarith

/-- Two numbers on the grid are so far apart that sixteen digits after the first tell them apart. -/
theorem lt_of_onGrid {first second : Nat} (firstOnGrid : OnGrid first)
    (secondOnGrid : OnGrid second) (less : first < second) :
    (second : ℚ) < 10 ^ 16 * (second - first) := by
  have gap := firstOnGrid.add_spacing_le secondOnGrid less
  have width := lt_spacing_mul first
  have bound : first < (second - first) * twoPower 53 :=
    Nat.lt_of_lt_of_le width (Nat.mul_le_mul_right _ (by omega))
  have cast : (first : ℚ) < (second - first) * 2 ^ 53 := by
    rw [← Nat.cast_sub less.le]
    exact_mod_cast bound
  have ordered : (first : ℚ) < second := by exact_mod_cast less
  norm_num at cast ⊢
  linarith

/-- A decimal that agrees with a number to seventeen digits is rounded to this number. -/
theorem rounded_of_near (onGrid : OnGrid quanta)
    (near : 2 * 10 ^ 16 * |decimal.value - quanta| ≤ quanta) : decimal.rounded = quanta := by
  have nearest := decimal.nearest_rounded
  have least := nearest.least quanta onGrid
  have apart : |(decimal.rounded : ℚ) - quanta| ≤ 2 * |decimal.value - quanta| := by
    have triangle := abs_sub_le (decimal.rounded : ℚ) decimal.value quanta
    rw [abs_sub_comm (decimal.rounded : ℚ) decimal.value] at triangle
    linarith
  rcases Nat.lt_trichotomy decimal.rounded quanta with below | same | above
  · have gap := lt_of_onGrid nearest.onGrid onGrid below
    rw [abs_sub_comm] at apart
    linarith [le_abs_self ((quanta : ℚ) - decimal.rounded)]
  · exact same
  · have gap := lt_of_onGrid onGrid nearest.onGrid above
    have larger : (quanta : ℚ) < decimal.rounded := by exact_mod_cast above
    linarith [le_abs_self ((decimal.rounded : ℚ) - quanta)]

end Decimal

/-! ## The grids of the search -/

theorem pow_ten_split : Nat.pow 10 400 = Nat.pow 10 200 * Nat.pow 10 200 := by decide +kernel

/-- A quotient lies between its whole part and the next whole number. -/
theorem div_bounds (numerator : Nat) {denominator : Nat} (positive : 0 < denominator) :
    ((numerator / denominator : ℕ) : ℚ) ≤ numerator / denominator ∧
      (numerator / denominator : ℚ) < (numerator / denominator : ℕ) + 1 := by
  have given : (0 : ℚ) < denominator := by exact_mod_cast positive
  rw [le_div_iff₀ given, div_lt_iff₀ given]
  constructor
  · exact_mod_cast Nat.div_mul_le_self numerator denominator
  · exact_mod_cast (Nat.div_lt_iff_lt_mul positive).1 (Nat.lt_succ_self (numerator / denominator))

theorem length_ofNat_bounds {number : Nat} (given : number ≠ 0) :
    Nat.pow 10 ((Text.ofNat number).length - 1) ≤ number ∧
      number < Nat.pow 10 (Text.ofNat number).length := by
  have nonempty : 0 < (Text.ofNat number).length :=
    List.length_pos_of_ne_nil (Text.ofNat_ne_nil number)
  constructor
  · by_contra below
    have low := Nat.lt_of_not_le below
    rcases Nat.eq_zero_or_pos ((Text.ofNat number).length - 1) with zero | positive
    · rw [zero] at low
      exact given (Nat.lt_one_iff.1 low)
    · have shorter := (Nat.length_toDigits_le_iff (by decide) positive).2 low
      change (Text.ofNat number).length ≤ _ at shorter
      omega
  · exact (Nat.length_toDigits_le_iff (by decide) nonempty).1 (Nat.le_refl _)

/-- The first digit of a number stands where the count of its digits before the point says after the
point has been moved. -/
theorem leadingExponent_bounds {quanta : Nat} (given : quanta ≠ 0) :
    10 ^ leadingExponent quanta * (unit : ℚ) ≤ quanta ∧
      quanta < 10 ^ (leadingExponent quanta + 1) * (unit : ℚ) := by
  have positive : (0 : ℚ) < unit := by exact_mod_cast unit_pos
  have bounds := div_bounds (quanta * Nat.pow 10 400) unit_pos
  have cast : ((quanta * Nat.pow 10 400 : ℕ) : ℚ) = quanta * 10 ^ (400 : ℤ) := by
    rw [pow_ten_split, Nat.cast_mul, Nat.cast_mul, Decimal.natCast_pow_ten,
      ← zpow_add₀ (by norm_num)]
    rfl
  rw [cast] at bounds
  rw [le_div_iff₀ positive, div_lt_iff₀ positive] at bounds
  have far := Decimal.ten_zpow_pos 400
  have large : quanta * Nat.pow 10 400 / unit ≠ 0 := by
    intro zero
    have one : (1 : ℚ) ≤ quanta := by exact_mod_cast Nat.pos_of_ne_zero given
    have scaled := le_mul_of_one_le_left far.le one
    rw [zero, Nat.cast_zero, zero_add, one_mul] at bounds
    have less := Decimal.unit_lt_ten_zpow.trans (lt_of_le_of_lt scaled bounds.2)
    linarith only [less, positive]
  have digits := length_ofNat_bounds large
  rw [leadingExponent]
  generalize quanta * Nat.pow 10 400 / unit = whole at bounds large digits ⊢
  have nonempty : 0 < (Text.ofNat whole).length :=
    List.length_pos_of_ne_nil (Text.ofNat_ne_nil whole)
  generalize (Text.ofNat whole).length = length at digits nonempty ⊢
  have low : (10 : ℚ) ^ ((length : ℤ) - 1) ≤ whole := by
    have cast := Decimal.natCast_pow_ten (length - 1)
    rw [Nat.cast_sub nonempty] at cast
    rw [Nat.cast_one] at cast
    rw [← cast]
    exact Nat.cast_le.2 digits.1
  have high : (whole : ℚ) + 1 ≤ 10 ^ (length : ℤ) := by
    rw [← Decimal.natCast_pow_ten]
    exact_mod_cast digits.2
  have shift (exponent : ℤ) : (10 : ℚ) ^ exponent * 10 ^ (400 : ℤ) = 10 ^ (exponent + 400) :=
    (zpow_add₀ (by norm_num) _ _).symm
  constructor
  · rw [← mul_le_mul_iff_left₀ far, mul_right_comm, shift,
      show (length : ℤ) - 401 + 400 = length - 1 by omega]
    exact le_trans (mul_le_mul_of_nonneg_right low positive.le) bounds.1
  · rw [← mul_lt_mul_iff_left₀ far, mul_right_comm, shift,
      show (length : ℤ) - 401 + 1 + 400 = length by omega]
    exact lt_of_lt_of_le bounds.2 (mul_le_mul_of_nonneg_right high positive.le)

/-- The grid of decimals with a number of digits around a number: the exponent of the last digit. -/
def gridExponent (quanta digits : Nat) : Int := leadingExponent quanta + 1 - digits

/-- How many steps of the grid lie below a number. -/
def gridBelow (quanta digits : Nat) : Nat :=
  quanta * (tenPower (-gridExponent quanta digits)).1 /
    (unit * (tenPower (-gridExponent quanta digits)).2)

/-- A decimal on the grid. -/
def gridDecimal (quanta digits count : Nat) : Decimal :=
  { coefficient := count, exponent := gridExponent quanta digits }

theorem tenPower_value (exponent : Int) :
    ((tenPower exponent).1 / (tenPower exponent).2 : ℚ) = 10 ^ exponent ∧
      0 < (tenPower exponent).2 := by
  cases exponent with
  | ofNat power =>
      refine ⟨?_, Nat.one_pos⟩
      change ((Nat.pow 10 power : ℕ) / (1 : ℕ) : ℚ) = 10 ^ (power : ℤ)
      rw [Decimal.natCast_pow_ten, Nat.cast_one, div_one]
  | negSucc power =>
      refine ⟨?_, Nat.pow_pos (by decide)⟩
      change ((1 : ℕ) / (Nat.pow 10 (power + 1) : ℕ) : ℚ) = 10 ^ (Int.negSucc power)
      rw [Decimal.natCast_pow_ten, zpow_negSucc, zpow_natCast, Nat.cast_one, one_div]

theorem value_gridDecimal (quanta digits count : Nat) :
    (gridDecimal quanta digits count).value =
      count * (10 ^ gridExponent quanta digits * unit) :=
  mul_assoc _ _ _

theorem gridStep_pos (quanta digits : Nat) :
    (0 : ℚ) < 10 ^ gridExponent quanta digits * unit :=
  mul_pos (Decimal.ten_zpow_pos _) (by exact_mod_cast unit_pos)

/-- A number lies between two neighbours on a grid. -/
theorem gridBelow_bounds (quanta digits : Nat) :
    (gridDecimal quanta digits (gridBelow quanta digits)).value ≤ quanta ∧
      quanta < (gridDecimal quanta digits (gridBelow quanta digits + 1)).value := by
  have step := gridStep_pos quanta digits
  obtain ⟨power, given⟩ := tenPower_value (-gridExponent quanta digits)
  have bounds := div_bounds (quanta * (tenPower (-gridExponent quanta digits)).1)
    (Nat.mul_pos unit_pos given)
  have quotient : ((quanta * (tenPower (-gridExponent quanta digits)).1 : ℕ) /
      (unit * (tenPower (-gridExponent quanta digits)).2 : ℕ) : ℚ) =
        quanta / (10 ^ gridExponent quanta digits * unit) := by
    rw [Nat.cast_mul, Nat.cast_mul, mul_div_mul_comm, power, zpow_neg]
    field_simp
  rw [quotient, le_div_iff₀ step, div_lt_iff₀ step] at bounds
  rw [value_gridDecimal, value_gridDecimal, Nat.cast_add, Nat.cast_one]
  exact bounds

theorem ten_zpow_gridExponent (quanta digits : Nat) (count : Int) :
    (10 : ℚ) ^ count * (10 ^ gridExponent quanta digits * unit) =
      10 ^ (leadingExponent quanta + 1 - digits + count) * unit := by
  rw [← mul_assoc, ← zpow_add₀ (by norm_num), gridExponent, add_comm]

/-- The lower neighbour of a number has all the digits of its grid. -/
theorem gridBelow_digits {quanta digits : Nat} (given : quanta ≠ 0) (positive : 0 < digits) :
    Nat.pow 10 (digits - 1) ≤ gridBelow quanta digits ∧
      gridBelow quanta digits < Nat.pow 10 digits := by
  have step := gridStep_pos quanta digits
  obtain ⟨low, high⟩ := leadingExponent_bounds given
  obtain ⟨below, above⟩ := gridBelow_bounds quanta digits
  rw [value_gridDecimal] at below above
  constructor
  · have first := ten_zpow_gridExponent quanta digits (digits - 1 : ℕ)
    rw [show leadingExponent quanta + 1 - digits + ((digits - 1 : ℕ) : ℤ) =
      leadingExponent quanta by omega, ← Decimal.natCast_pow_ten] at first
    have less := lt_of_mul_lt_mul_right (first.trans_lt (lt_of_le_of_lt low above)) step.le
    exact Nat.le_of_lt_succ (by exact_mod_cast less)
  · have next := ten_zpow_gridExponent quanta digits digits
    rw [show leadingExponent quanta + 1 - digits + (digits : ℤ) =
      leadingExponent quanta + 1 by omega, ← Decimal.natCast_pow_ten] at next
    have less := lt_of_mul_lt_mul_right (lt_of_le_of_lt below (high.trans_eq next.symm)) step.le
    exact_mod_cast less

theorem stripZeros_value (count coefficient : Nat) (exponent : Int) :
    ((stripZeros count coefficient exponent).1 : ℚ) *
        10 ^ (stripZeros count coefficient exponent).2 = coefficient * 10 ^ exponent := by
  induction count generalizing coefficient exponent with
  | zero => rfl
  | succ count ih =>
      rw [stripZeros]
      split
      · rename_i ends
        have whole : coefficient = coefficient / 10 * 10 := by omega
        rw [ih, zpow_add₀ (by norm_num), zpow_one]
        nth_rewrite 2 [whole]
        rw [Nat.cast_mul, Nat.cast_ofNat, mul_comm ((10 : ℚ) ^ exponent), mul_assoc]
      · rfl

theorem stripZeros_le (count coefficient : Nat) (exponent : Int) :
    (stripZeros count coefficient exponent).1 ≤ coefficient := by
  induction count generalizing coefficient exponent with
  | zero => exact Nat.le_refl _
  | succ count ih =>
      rw [stripZeros]
      split
      · exact Nat.le_trans (ih _ _) (Nat.div_le_self _ _)
      · exact Nat.le_refl _

theorem stripZeros_powerOfTen {zeros count : Nat} (enough : zeros ≤ count) (exponent : Int) :
    (stripZeros count (Nat.pow 10 zeros) exponent).1 = 1 := by
  induction count generalizing zeros exponent with
  | zero =>
      obtain rfl := Nat.le_zero.1 enough
      rfl
  | succ count ih =>
      cases zeros with
      | zero => rfl
      | succ zeros =>
          have power : Nat.pow 10 (zeros + 1) = Nat.pow 10 zeros * 10 := rfl
          have positive : 0 < Nat.pow 10 zeros := Nat.pow_pos (by decide)
          rw [stripZeros, power, if_pos (by omega), Nat.mul_div_cancel _ (by decide)]
          exact ih (Nat.le_of_succ_le_succ enough) _

variable {quanta : Nat} {decimal : Decimal}

/-- A decimal is a candidate when it reads back, and it is offered without the zeros at its end. -/
theorem candidate?_eq_some_iff (fits : Fits quanta) (digits count : Nat) :
    candidate? quanta count (gridExponent quanta digits) = some decimal ↔
      (gridDecimal quanta digits count).rounded = quanta ∧
        decimal =
          { coefficient := (stripZeros 20 count (gridExponent quanta digits)).1
            exponent := (stripZeros 20 count (gridExponent quanta digits)).2 } := by
  have same : (gridDecimal quanta digits count).value =
      ({ coefficient := (stripZeros 20 count (gridExponent quanta digits)).1
         exponent := (stripZeros 20 count (gridExponent quanta digits)).2 } : Decimal).value := by
    rw [Decimal.value, Decimal.value, stripZeros_value, gridDecimal]
  rw [candidate?, Decimal.rounded_congr same]
  simp only [Decimal.magnitude_toDouble_iff fits]
  split
  · rename_i reads
    rw [Option.some.injEq, eq_comm]
    exact (and_iff_right reads).symm
  · rename_i differs
    exact ⟨fun found => (by cases found), fun both => absurd both.1 differs⟩

/-- The two neighbours on a grid are tried one after the other. -/
theorem neighbour?_cases (quanta digits : Nat) :
    let lower := candidate? quanta (gridBelow quanta digits) (gridExponent quanta digits)
    let upper := candidate? quanta (gridBelow quanta digits + 1) (gridExponent quanta digits)
    neighbour? quanta digits = lower.or upper ∨ neighbour? quanta digits = upper.or lower := by
  rw [neighbour?]
  split
  · exact Or.inl rfl
  · exact Or.inr rfl

theorem neighbour?_isSome_of_rounded (fits : Fits quanta) {digits : Nat}
    (reads : (gridDecimal quanta digits (gridBelow quanta digits)).rounded = quanta ∨
      (gridDecimal quanta digits (gridBelow quanta digits + 1)).rounded = quanta) :
    (neighbour? quanta digits).isSome = true := by
  have offered {count : Nat} (reads : (gridDecimal quanta digits count).rounded = quanta) :
      (candidate? quanta count (gridExponent quanta digits)).isSome = true :=
    Option.isSome_iff_exists.2 ⟨_, (candidate?_eq_some_iff fits digits count).2 ⟨reads, rfl⟩⟩
  rcases neighbour?_cases quanta digits with order | order <;>
    rcases reads with lower | upper <;>
      rw [order, Option.isSome_or] <;>
      simp_all

/-- A neighbour is written with no more digits than its grid has. -/
theorem coefficient_lt_of_neighbour? (fits : Fits quanta) (given : quanta ≠ 0) {digits : Nat}
    (positive : 0 < digits) (few : digits ≤ 20) (found : neighbour? quanta digits = some decimal) :
    decimal.coefficient < Nat.pow 10 digits := by
  have below := (gridBelow_digits given positive).2
  have short {count : Nat} (bounded : count ≤ Nat.pow 10 digits)
      (offered : candidate? quanta count (gridExponent quanta digits) = some decimal) :
      decimal.coefficient < Nat.pow 10 digits := by
    obtain ⟨_, rfl⟩ := (candidate?_eq_some_iff fits digits count).1 offered
    rcases Nat.lt_or_eq_of_le bounded with less | power
    · exact Nat.lt_of_le_of_lt (stripZeros_le ..) less
    · rw [power]
      simp only [stripZeros_powerOfTen few]
      exact Nat.one_lt_pow positive.ne' (by decide)
  rcases neighbour?_cases quanta digits with order | order <;> rw [order] at found <;>
    rcases Option.or_eq_some_iff.1 found with offered | ⟨_, offered⟩
  · exact short below.le offered
  · exact short below offered
  · exact short below offered
  · exact short below.le offered

/-! ## The search -/

/-- A decimal without more digits than a grid has lies on the grid, or below all that has so many
digits. -/
theorem onGrid_or_lt {digits : Nat} (positive : 0 < digits)
    (short : decimal.coefficient < Nat.pow 10 digits) :
    (∃ count, decimal.value = (gridDecimal quanta digits count).value) ∨
      decimal.value < (gridDecimal quanta digits (Nat.pow 10 (digits - 1))).value := by
  have unitPositive : (0 : ℚ) < unit := by exact_mod_cast unit_pos
  rw [value_gridDecimal, Decimal.natCast_pow_ten, ten_zpow_gridExponent]
  by_cases coarse : gridExponent quanta digits ≤ decimal.exponent
  · left
    obtain ⟨zeros, apart⟩ := Int.le.dest coarse
    refine ⟨decimal.coefficient * Nat.pow 10 zeros, ?_⟩
    rw [value_gridDecimal, Nat.cast_mul, Decimal.natCast_pow_ten, Decimal.value, ← apart,
      mul_assoc, mul_assoc, ← mul_assoc ((10 : ℚ) ^ (zeros : ℤ)), ← zpow_add₀ (by norm_num),
      add_comm]
  · right
    rw [gridExponent] at coarse
    calc decimal.value < 10 ^ (digits : ℤ) * 10 ^ decimal.exponent * unit := by
          rw [← Decimal.natCast_pow_ten]
          exact mul_lt_mul_of_pos_right (mul_lt_mul_of_pos_right (Nat.cast_lt.2 short)
            (Decimal.ten_zpow_pos _)) unitPositive
      _ ≤ 10 ^ (leadingExponent quanta + 1 - digits + ((digits - 1 : ℕ) : ℤ)) * unit := by
          rw [← zpow_add₀ (by norm_num)]
          exact mul_le_mul_of_nonneg_right (Decimal.ten_zpow_le (by omega)) unitPositive.le

theorem gridDecimal_le {digits first second : Nat} (le : first ≤ second) :
    (gridDecimal quanta digits first).value ≤ (gridDecimal quanta digits second).value := by
  rw [value_gridDecimal, value_gridDecimal]
  exact mul_le_mul_of_nonneg_right (Nat.cast_le.2 le) (gridStep_pos quanta digits).le

/-- Between a number and a decimal without more digits than a grid has lies a neighbour on the
grid. -/
theorem neighbour_between (given : quanta ≠ 0) {digits : Nat} (positive : 0 < digits)
    (short : decimal.coefficient < Nat.pow 10 digits) :
    decimal.value ≤ (gridDecimal quanta digits (gridBelow quanta digits)).value ∨
      (gridDecimal quanta digits (gridBelow quanta digits + 1)).value ≤ decimal.value := by
  rcases onGrid_or_lt positive short with ⟨count, same⟩ | less
  · rw [same]
    rcases Nat.lt_or_ge (gridBelow quanta digits) count with above | below
    · exact Or.inr (gridDecimal_le above)
    · exact Or.inl (gridDecimal_le below)
  · exact Or.inl (less.le.trans (gridDecimal_le (gridBelow_digits given positive).1))

/-- If any decimal with so many digits reads back, then a neighbour with so many digits does. -/
theorem neighbour?_isSome_of_short (fits : Fits quanta) (given : quanta ≠ 0) {digits : Nat}
    (positive : 0 < digits) (short : decimal.coefficient < Nat.pow 10 digits)
    (reads : decimal.rounded = quanta) : (neighbour? quanta digits).isSome = true := by
  obtain ⟨below, above⟩ := gridBelow_bounds quanta digits
  apply neighbour?_isSome_of_rounded fits
  rcases neighbour_between given positive short with low | high
  · exact Or.inl (Decimal.rounded_of_between reads (Or.inl ⟨low, below⟩))
  · exact Or.inr (Decimal.rounded_of_between reads (Or.inr ⟨above.le, high⟩))

/-- Seventeen digits suffice for every number. -/
theorem neighbour?_seventeen (fits : Fits quanta) (given : quanta ≠ 0) :
    (neighbour? quanta 17).isSome = true := by
  obtain ⟨below, above⟩ := gridBelow_bounds quanta 17
  have fine : 10 ^ 16 * (10 ^ gridExponent quanta 17 * unit : ℚ) ≤ quanta := by
    have first := ten_zpow_gridExponent quanta 17 16
    rw [show leadingExponent quanta + 1 - ((17 : ℕ) : ℤ) + 16 = leadingExponent quanta by omega]
      at first
    exact first.le.trans (leadingExponent_bounds given).1
  rw [value_gridDecimal] at below above
  rw [Nat.cast_add, Nat.cast_one, add_mul, one_mul] at above
  apply neighbour?_isSome_of_rounded fits
  rcases le_total (2 * (quanta - gridBelow quanta 17 * (10 ^ gridExponent quanta 17 * unit) : ℚ))
    (10 ^ gridExponent quanta 17 * unit) with near | far
  · refine Or.inl (Decimal.rounded_of_near fits.onGrid ?_)
    rw [value_gridDecimal, abs_sub_comm, abs_of_nonneg (by linarith)]
    linarith
  · refine Or.inr (Decimal.rounded_of_near fits.onGrid ?_)
    rw [value_gridDecimal, Nat.cast_add, Nat.cast_one, add_mul, one_mul,
      abs_of_nonneg (by linarith)]
    linarith

/-- The search ends at the least number of digits with a neighbour that reads back. -/
theorem exists_neighbour (fits : Fits quanta) (given : quanta ≠ 0) :
    ∃ digits, 0 < digits ∧ digits ≤ 17 ∧ neighbour? quanta digits = some (shortest quanta) ∧
      ∀ fewer, 0 < fewer → fewer < digits → neighbour? quanta fewer = none := by
  have succeeds : ((List.range' 1 17).findSome? (neighbour? quanta)).isSome = true := by
    rw [List.findSome?_isSome_iff]
    exact ⟨17, by simp [List.mem_range'_1], neighbour?_seventeen fits given⟩
  obtain ⟨decimal, found⟩ := Option.isSome_iff_exists.1 succeeds
  obtain ⟨before, digits, after, shape, reads, missing⟩ := List.findSome?_eq_some_iff.1 found
  have inside : digits ∈ List.range' 1 17 := by simp [shape]
  rw [List.mem_range'_1] at inside
  have increasing : (List.range' 1 17).Pairwise (· < ·) := List.pairwise_lt_range'
  rw [shape, List.pairwise_append, List.pairwise_cons] at increasing
  refine ⟨digits, by omega, by omega, by rw [reads, shortest, found]; rfl,
    fun fewer positive less => missing fewer ?_⟩
  have member : fewer ∈ List.range' 1 17 := List.mem_range'_1.2 (by omega)
  rw [shape, List.mem_append, List.mem_cons] at member
  rcases member with earlier | same | later
  · exact earlier
  · omega
  · have larger := increasing.2.1.1 fewer later
    omega

/-- The number of digits of a decimal. -/
def Decimal.digitCount (decimal : Decimal) : Nat := (Text.ofNat decimal.coefficient).length

theorem Decimal.digitCount_pos (decimal : Decimal) : 0 < decimal.digitCount :=
  List.length_pos_of_ne_nil (Text.ofNat_ne_nil decimal.coefficient)

theorem Decimal.digitCount_le_iff {digits : Nat} (positive : 0 < digits) :
    decimal.digitCount ≤ digits ↔ decimal.coefficient < Nat.pow 10 digits :=
  Nat.length_toDigits_le_iff (by decide) positive

/-- A decimal that reads back as a positive number, with at most seventeen digits, and with no more
than any other that does. -/
structure IsShortest (quanta : Nat) (decimal : Decimal) : Prop where
  reads : decimal.toDouble.magnitude = quanta
  digitCount_le : decimal.digitCount ≤ 17
  least : ∀ other : Decimal, other.toDouble.magnitude = quanta →
    decimal.digitCount ≤ other.digitCount

theorem isShortest_shortest (fits : Fits quanta) (given : quanta ≠ 0) :
    IsShortest quanta (shortest quanta) := by
  obtain ⟨digits, positive, few, found, fewer⟩ := exists_neighbour fits given
  have short : (shortest quanta).digitCount ≤ digits :=
    (Decimal.digitCount_le_iff positive).2
      (coefficient_lt_of_neighbour? fits given positive (by omega) found)
  refine ⟨(neighbour?_value found).2, short.trans few, fun other reads => short.trans ?_⟩
  by_contra less
  have missing := fewer _ other.digitCount_pos (Nat.lt_of_not_le less)
  have present := neighbour?_isSome_of_short fits given other.digitCount_pos
    ((Decimal.digitCount_le_iff other.digitCount_pos).1 (Nat.le_refl _))
    ((Decimal.magnitude_toDouble_iff fits).1 reads)
  rw [missing] at present
  cases present

/-- How the plain text writes a number: a whole number with all of its digits, and any other with
the shortest decimal that reads back. -/
inductive PlainForm (negative : Bool) (quanta : Nat) : Text → Prop where
  | whole (number : Nat) (exact : number * unit = quanta) :
      PlainForm negative quanta (signText (negative && quanta != 0) ++ Text.ofNat number)
  | fractional (decimal : Decimal) (between : ¬unit ∣ quanta)
      (shortest : IsShortest quanta decimal) :
      PlainForm negative quanta (signText negative ++ decimalText decimal)

theorem plainForm_plainText (negative : Bool) (fits : Fits quanta) :
    PlainForm negative quanta (plainText (.finite negative quanta fits)) := by
  by_cases integral : quanta % unit = 0
  · have whole : (Double.finite negative quanta fits).isIntegral = true := beq_iff_eq.2 integral
    rw [plainText, if_pos whole]
    exact .whole _ (Nat.div_mul_cancel (Nat.dvd_of_mod_eq_zero integral))
  · have fractional : ¬(Double.finite negative quanta fits).isIntegral = true :=
      fun whole => integral (beq_iff_eq.1 whole)
    have given : quanta ≠ 0 := by
      rintro rfl
      exact integral (Nat.zero_mod unit)
    rw [plainText, if_neg fractional, fullText, if_neg given]
    exact .fractional _ (fun divides => integral (Nat.mod_eq_zero_of_dvd divides))
      (isShortest_shortest fits given)

/-- The plain text of a finite number is read as this number, a negative zero as zero.  It has no
more digits than that takes, and reading rounds to the nearest number. -/
theorem plainText_readsBack (negative : Bool) {quanta : Nat} (fits : Fits quanta) :
    read? (plainText (.finite negative quanta fits)) =
        some (.finite (negative && quanta != 0) quanta fits) ∧
      PlainForm negative quanta (plainText (.finite negative quanta fits)) ∧
      ∀ decimal : Decimal, decimal.RoundsTo decimal.toDouble := by
  obtain ⟨written, found, value⟩ := numeral?_plainText negative fits
  refine ⟨?_, plainForm_plainText negative fits, Decimal.roundsTo_toDouble⟩
  rw [read?_of_numeral? found, value]

theorem fits_one : Fits 1 := by decide +kernel

/-- The least number above zero is written with one digit. -/
theorem plainText_readsBack_least :
    plainText (.finite true 1 fits_one) = "-5e-324".toList ∧
      read? "-5e-324".toList = some (.finite true 1 fits_one) ∧
      PlainForm true 1 "-5e-324".toList := by
  have written : plainText (.finite true 1 fits_one) = "-5e-324".toList := by decide +kernel
  obtain ⟨reads, form, _⟩ := plainText_readsBack true fits_one
  rw [written] at reads form
  exact ⟨written, reads, form⟩

end FrameScript.Number
