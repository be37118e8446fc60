import FrameScript.Proofs.Number.Numerals
import FrameScript.Proofs.Number.Rounding

/-!
# Reading numbers back

The plain text of a finite double is a numeral, and the number that it writes is that double, except
that the negative zero is written as zero.  The text of a decimal is read as a decimal of the same
value in each of its forms: with a power of ten, with zeros before the point, and with digits behind
it.
-/

namespace FrameScript.Number

attribute [local irreducible] depth width

theorem digitsValue_ofNat (number : Nat) : digitsValue (Text.ofNat number) = number :=
  Nat.ofDigitChars_ten_toDigits

theorem digitsValue_leftpad (width : Nat) (digits : Text) :
    digitsValue (digits.leftpad width '0') = digitsValue digits := by
  rw [digitsValue, List.leftpad, Nat.ofDigitChars_append, Nat.ofDigitChars_replicate_zero,
    Nat.mul_zero, digitsValue]

theorem digitsValue_append_zeros (digits : Text) (count : Nat) :
    digitsValue (digits ++ List.replicate count '0') = digitsValue digits * Nat.pow 10 count := by
  rw [digitsValue, Nat.ofDigitChars_append, Nat.ofDigitChars_replicate_zero, Nat.mul_comm]
  rfl

theorem isDigit_of_mem_leftpad (width : Nat) {digits : Text}
    (allDigits : ∀ char ∈ digits, char.isDigit = true) :
    ∀ char ∈ digits.leftpad width '0', char.isDigit = true := by
  intro char member
  rcases List.mem_append.1 member with padding | digit
  · rw [List.eq_of_mem_replicate padding]
    rfl
  · exact allDigits char digit

theorem isDigit_ofNat (number : Nat) : ∀ char ∈ Text.ofNat number, char.isDigit = true :=
  fun _ member => Text.isDigit_of_mem_ofNat member

theorem exponent?_powerText (power : Int) : exponent? ('e' :: powerText power) = some power := by
  have padded : Text.isDigits ((Text.ofNat power.natAbs).leftpad 2 '0') = true := by
    refine Text.isDigits_iff.2 ⟨?_, isDigit_of_mem_leftpad 2 (isDigit_ofNat _)⟩
    simp [List.leftpad, Text.ofNat_ne_nil]
  by_cases negative : power < 0
  · have signed : takeSign (powerText power) =
        (true, (Text.ofNat power.natAbs).leftpad 2 '0') := by
      rw [powerText, if_pos negative]
      rfl
    rw [exponent?, afterSign, isMinus, signed, if_pos ⟨Or.inl rfl, padded⟩]
    simp only [digitsValue_leftpad, digitsValue_ofNat, if_true, Option.some.injEq]
    omega
  · have signed : takeSign (powerText power) =
        (false, (Text.ofNat power.natAbs).leftpad 2 '0') := by
      rw [powerText, if_neg negative]
      rfl
    rw [exponent?, afterSign, isMinus, signed, if_pos ⟨Or.inl rfl, padded⟩]
    simp only [digitsValue_leftpad, digitsValue_ofNat, Bool.false_eq_true, if_false,
      Option.some.injEq]
    omega

theorem fractionDigits_point {fraction rest : Text}
    (digits : ∀ char ∈ fraction, char.isDigit = true) (stops : StopsDigits rest) :
    fractionDigits ('.' :: (fraction ++ rest)) = fraction :=
  stops.takeWhile_append digits

theorem afterFraction_point {fraction rest : Text}
    (digits : ∀ char ∈ fraction, char.isDigit = true) (stops : StopsDigits rest) :
    afterFraction ('.' :: (fraction ++ rest)) = rest :=
  stops.dropWhile_append digits

/-- Digits, a point and digits, with or without a power behind them. -/
theorem numeral?_point {whole rest : Text} {power : Int} (fraction : Text) (given : whole ≠ [])
    (wholeDigits : ∀ char ∈ whole, char.isDigit = true)
    (fractionDigits : ∀ char ∈ fraction, char.isDigit = true) (stops : StopsDigits rest)
    (read : exponent? rest = some power) :
    numeral? (whole ++ '.' :: (fraction ++ rest)) =
      some { coefficient := digitsValue (whole ++ fraction)
             exponent := power - fraction.length } := by
  rw [numeral?_append given wholeDigits (.cons (by decide) _),
    afterFraction_point fractionDigits stops, fractionDigits_point fractionDigits stops, read]
  rfl

theorem numeral?_ofNat (number : Nat) :
    numeral? (Text.ofNat number) = some { coefficient := number } := by
  have whole := numeral?_append (Text.ofNat_ne_nil number) (isDigit_ofNat number) .nil
  rw [List.append_nil] at whole
  rw [whole, show fractionDigits [] = [] from rfl, List.append_nil, digitsValue_ofNat]
  rfl

theorem ofNat_cons (number : Nat) :
    ∃ first rest, Text.ofNat number = first :: rest ∧ first.isDigit = true := by
  obtain ⟨first, rest, shape⟩ := List.exists_cons_of_ne_nil (Text.ofNat_ne_nil number)
  exact ⟨first, rest, shape, isDigit_ofNat number first (by simp [shape])⟩

/-- The form with a power of ten is read as the decimal that it was made from. -/
theorem numeral?_scientific (coefficient : Nat) (exponent : Int) :
    numeral? (scientificDigits (Text.ofNat coefficient) ++
      'e' :: powerText (((Text.ofNat coefficient).length : Int) - 1 + exponent)) =
      some { coefficient, exponent } := by
  have value := digitsValue_ofNat coefficient
  have digits := isDigit_ofNat coefficient
  obtain ⟨first, rest, shape, _⟩ := ofNat_cons coefficient
  rw [shape] at value digits ⊢
  have stops (power : Int) : StopsDigits ('e' :: powerText power) := .cons (by decide) _
  cases rest with
  | nil =>
      have read := numeral?_append (List.cons_ne_nil first []) digits (stops (0 + exponent))
      have plain : fractionDigits ('e' :: powerText (0 + exponent)) = [] := rfl
      have same : afterFraction ('e' :: powerText (0 + exponent)) =
          'e' :: powerText (0 + exponent) := rfl
      rw [plain, same, exponent?_powerText, List.append_nil, value] at read
      simpa [scientificDigits] using read
  | cons second rest =>
      have read := numeral?_point (second :: rest) (List.cons_ne_nil first [])
        (fun char member => digits char (by simp_all))
        (fun char member => digits char (List.mem_cons_of_mem first member)) (stops _)
        (exponent?_powerText (((first :: second :: rest).length : Int) - 1 + exponent))
      rw [List.singleton_append, List.singleton_append, value] at read
      change numeral? (first :: '.' :: (second :: rest ++ _)) = _
      rw [read, Option.some.injEq, Decimal.mk.injEq]
      refine ⟨rfl, rfl, ?_⟩
      simp only [List.length_cons]
      omega

/-- The form with digits behind the point is read as the decimal that it was made from. -/
theorem numeral?_positional (coefficient places : Nat) :
    numeral? (positional (Text.ofNat coefficient) places) =
      some { coefficient, exponent := -(places : Int) } := by
  have digits := isDigit_of_mem_leftpad (places + 1) (isDigit_ofNat coefficient)
  have value := digitsValue_leftpad (places + 1) (Text.ofNat coefficient)
  have long : places < ((Text.ofNat coefficient).leftpad (places + 1) '0').length := by
    rw [List.length_leftpad]
    omega
  rw [digitsValue_ofNat] at value
  rw [positional]
  generalize (Text.ofNat coefficient).leftpad (places + 1) '0' = padded at digits value long ⊢
  have given : padded.take (padded.length - places) ≠ [] := by
    intro none
    have lengths := congrArg List.length none
    rw [List.length_take, List.length_nil] at lengths
    omega
  have read := numeral?_point (padded.drop (padded.length - places)) given
    (fun char member => digits char (List.mem_of_mem_take member))
    (fun char member => digits char (List.mem_of_mem_drop member)) .nil
    (show exponent? [] = some 0 from rfl)
  rw [List.append_nil, List.take_append_drop, value, List.length_drop] at read
  rw [read, Option.some.injEq, Decimal.mk.injEq]
  exact ⟨rfl, rfl, by omega⟩

/-- The form with zeros before the point is read as a decimal of the same value. -/
theorem numeral?_zeros (coefficient zeros : Nat) :
    numeral? (Text.ofNat coefficient ++ List.replicate zeros '0' ++ ['.', '0']) =
      some { coefficient := coefficient * Nat.pow 10 (zeros + 1), exponent := .negSucc 0 } := by
  have digits : ∀ char ∈ Text.ofNat coefficient ++ List.replicate zeros '0',
      char.isDigit = true := by
    intro char member
    rcases List.mem_append.1 member with digit | zero
    · exact isDigit_ofNat coefficient char digit
    · rw [List.eq_of_mem_replicate zero]
      rfl
  have zero : ∀ char ∈ ['0'], char.isDigit = true := by
    intro char member
    rw [List.mem_singleton.1 member]
    rfl
  have read := numeral?_point ['0'] (by simp [Text.ofNat_ne_nil]) digits zero .nil
    (show exponent? [] = some 0 from rfl)
  have value : digitsValue (Text.ofNat coefficient ++ List.replicate zeros '0' ++ ['0']) =
      coefficient * Nat.pow 10 (zeros + 1) := by
    rw [List.append_assoc, show (['0'] : Text) = List.replicate 1 '0' from rfl,
      List.replicate_append_replicate, digitsValue_append_zeros, digitsValue_ofNat]
  rw [value] at read
  exact read

/-- The text of a decimal is read as a decimal of the same value. -/
theorem numeral?_decimalText {decimal : Decimal} (plain : decimal.negative = false) :
    ∃ written, numeral? (decimalText decimal) = some written ∧
      written.toDouble = decimal.toDouble := by
  obtain ⟨negative, coefficient, exponent⟩ := decimal
  obtain rfl : negative = false := plain
  rw [decimalText]
  simp only
  split
  · exact ⟨_, numeral?_scientific coefficient exponent, rfl⟩
  · rename_i small
    split
    · rename_i zeros
      refine ⟨_, numeral?_zeros coefficient zeros, Decimal.toDouble_pointZero coefficient ?_⟩
      have nonempty := List.length_pos_iff.2 (Text.ofNat_ne_nil coefficient)
      simp only [usesPower, Bool.or_eq_true, decide_eq_true_eq, Int.ofNat_eq_natCast] at small
      omega
    · rename_i places
      exact ⟨_, numeral?_positional coefficient (places + 1), rfl⟩

/-! ## The text of a double -/

theorem decimalText_cons (decimal : Decimal) :
    ∃ first rest, decimalText decimal = first :: rest ∧ first.isDigit = true := by
  obtain ⟨first, rest, shape, digit⟩ := ofNat_cons decimal.coefficient
  rw [decimalText]
  split
  · cases rest with
    | nil => exact ⟨first, _, by rw [shape]; rfl, digit⟩
    | cons second rest => exact ⟨first, _, by rw [shape]; rfl, digit⟩
  split
  · exact ⟨first, _, by rw [shape]; rfl, digit⟩
  · rename_i places exponent
    have digits := isDigit_of_mem_leftpad (places + 1 + 1)
      (isDigit_ofNat decimal.coefficient)
    have long : places + 1 <
        ((Text.ofNat decimal.coefficient).leftpad (places + 1 + 1) '0').length := by
      rw [List.length_leftpad]
      omega
    rw [positional]
    generalize (Text.ofNat decimal.coefficient).leftpad (places + 1 + 1) '0' = padded
      at digits long ⊢
    obtain ⟨before, cut⟩ : ∃ before, padded.length - (places + 1) = before + 1 :=
      ⟨padded.length - (places + 1) - 1, by omega⟩
    cases padded with
    | nil => simp at long
    | cons next others =>
        rw [cut]
        exact ⟨next, _, rfl, digits next (by simp)⟩

/-- The plain text of a whole number of quanta is read as that number. -/
theorem numeral?_plainText_integral {negative : Bool} {quanta : Nat} (fits : Fits quanta)
    (integral : quanta % unit = 0) :
    ∃ written, numeral? (plainText (.finite negative quanta fits)) = some written ∧
      written.toDouble = .finite (negative && quanta != 0) quanta fits := by
  have exact : quanta = quanta / unit * unit :=
    (Nat.div_mul_cancel (Nat.dvd_of_mod_eq_zero integral)).symm
  have whole : (Double.finite negative quanta fits).isIntegral = true := by
    rw [Double.isIntegral, integral]
    rfl
  refine ⟨{ negative := negative && quanta != 0, coefficient := quanta / unit }, ?_, ?_⟩
  · rw [plainText, if_pos whole]
    exact numeral?_signText _ (ofNat_cons _) (numeral?_ofNat _)
  · have scaledFits : Fits (quanta / unit * unit) := by rwa [← exact]
    have value := Decimal.toDouble_withSign (Decimal.toDouble_natural scaledFits)
      (negative && quanta != 0)
    rw [value, Double.finite.injEq]
    exact ⟨rfl, exact.symm⟩

theorem numeral?_plainText_fractional {negative : Bool} {quanta : Nat} (fits : Fits quanta)
    (fractional : quanta % unit ≠ 0) :
    ∃ written, numeral? (plainText (.finite negative quanta fits)) = some written ∧
      written.toDouble = .finite (negative && quanta != 0) quanta fits := by
  have given : quanta ≠ 0 := by
    rintro rfl
    exact fractional (Nat.zero_mod unit)
  have notWhole : ¬(Double.finite negative quanta fits).isIntegral = true := by
    rw [Double.isIntegral, beq_iff_eq]
    exact fractional
  obtain ⟨plain, value⟩ := toDouble_shortest fits
  obtain ⟨written, read, same⟩ := numeral?_decimalText plain
  refine ⟨{ written with negative }, ?_, ?_⟩
  · rw [plainText, if_neg notWhole, fullText, if_neg given]
    exact numeral?_signText negative (decimalText_cons _) read
  · have kept : (negative && quanta != 0) = negative := by simp [given]
    rw [kept]
    exact Decimal.toDouble_withSign (same.trans value) negative

/-- The plain text of a finite number is read as this number, a negative zero as zero. -/
theorem numeral?_plainText (negative : Bool) {quanta : Nat} (fits : Fits quanta) :
    ∃ written, numeral? (plainText (.finite negative quanta fits)) = some written ∧
      written.toDouble = .finite (negative && quanta != 0) quanta fits := by
  by_cases integral : quanta % unit = 0
  · exact numeral?_plainText_integral fits integral
  · exact numeral?_plainText_fractional fits integral

end FrameScript.Number
