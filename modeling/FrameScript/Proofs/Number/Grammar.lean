import FrameScript.Proofs.Number.Numerals

/-!
# The grammar of numbers

A numeral is an optional sign, a mantissa and an optional power of ten.  The digits of a mantissa
stand on both sides of its point, on one of them, or alone.  A text is read as a number exactly when
it is a numeral with any blanks around it.
-/

namespace FrameScript.Number

/-- An optional sign. -/
inductive SignForm : Text → Prop where
  | absent : SignForm []
  | plus : SignForm ['+']
  | minus : SignForm ['-']

/-- Digits that may have a point behind or among them, or a point and digits behind it. -/
inductive MantissaForm : Text → Prop where
  | whole {digits : Text} (given : Text.isDigits digits = true) : MantissaForm digits
  | pointed {whole fraction : Text} (given : Text.isDigits whole = true)
      (digits : ∀ char ∈ fraction, char.isDigit = true) : MantissaForm (whole ++ '.' :: fraction)
  | fraction {digits : Text} (given : Text.isDigits digits = true) : MantissaForm ('.' :: digits)

/-- An optional power of ten. -/
inductive PowerForm : Text → Prop where
  | absent : PowerForm []
  | marked {mark : Char} {sign digits : Text} (marks : mark = 'e' ∨ mark = 'E')
      (signed : SignForm sign) (given : Text.isDigits digits = true) :
      PowerForm (mark :: (sign ++ digits))

/-- The written form of a number, without blanks around it. -/
inductive NumeralForm : Text → Prop where
  | compose {sign mantissa power : Text} (signed : SignForm sign)
      (written : MantissaForm mantissa) (powered : PowerForm power) :
      NumeralForm (sign ++ mantissa ++ power)

/-- A text that does not start with a sign. -/
def Unsigned (text : Text) : Prop := takeSign text = (false, text)

theorem SignForm.afterSign_append {sign rest : Text} (signed : SignForm sign)
    (unsigned : Unsigned rest) : afterSign (sign ++ rest) = rest := by
  cases signed with
  | absent => rw [List.nil_append, afterSign, unsigned]
  | plus => rfl
  | minus => rfl

theorem exists_signForm (text : Text) : ∃ sign, SignForm sign ∧ sign ++ afterSign text = text := by
  unfold afterSign takeSign
  split
  · exact ⟨['+'], .plus, rfl⟩
  · exact ⟨['-'], .minus, rfl⟩
  · exact ⟨[], .absent, rfl⟩

theorem unsigned_of_isDigits {digits : Text} (given : Text.isDigits digits = true) (rest : Text) :
    Unsigned (digits ++ rest) := by
  obtain ⟨nonempty, all⟩ := Text.isDigits_iff.1 given
  obtain ⟨first, others, rfl⟩ := List.exists_cons_of_ne_nil nonempty
  exact takeSign_of_isDigit (all first (by simp)) (others ++ rest)

theorem MantissaForm.unsigned {mantissa : Text} (written : MantissaForm mantissa) (rest : Text) :
    Unsigned (mantissa ++ rest) := by
  cases written with
  | whole given => exact unsigned_of_isDigits given rest
  | pointed given digits =>
      rw [List.append_assoc]
      exact unsigned_of_isDigits given _
  | fraction given => exact takeSign_of_other (by decide) (by decide) _

theorem exponent?_isSome_iff {text : Text} : (exponent? text).isSome = true ↔ PowerForm text := by
  constructor
  · intro found
    cases text with
    | nil => exact .absent
    | cons mark rest =>
        rw [exponent?] at found
        split at found
        · rename_i shape
          obtain ⟨sign, signed, whole⟩ := exists_signForm rest
          rw [← whole]
          exact .marked shape.1 signed shape.2
        · cases found
  · intro powered
    cases powered with
    | absent => rfl
    | marked marks signed given =>
        rename_i mark sign digits
        have unsigned : Unsigned digits := by
          simpa using unsigned_of_isDigits given []
        rw [exponent?, signed.afterSign_append unsigned, if_pos ⟨marks, given⟩]
        rfl

theorem PowerForm.stops {power : Text} (powered : PowerForm power) : StopsDigits power := by
  cases powered with
  | absent => exact .nil
  | marked marks signed given =>
      refine .cons ?_ _
      rcases marks with rfl | rfl <;> decide

theorem PowerForm.unpointed {power : Text} (powered : PowerForm power) :
    fractionDigits power = [] ∧ afterFraction power = power := by
  cases powered with
  | absent => exact ⟨rfl, rfl⟩
  | marked marks signed given => rcases marks with rfl | rfl <;> exact ⟨rfl, rfl⟩

/-! ## Numerals -/

/-- A numeral is found when there are digits on one side of the point and a power behind them. -/
theorem numeral?_isSome_of_parts {text : Text} (whole tail : Text)
    (front : (afterSign text).takeWhile Char.isDigit = whole)
    (behind : (afterSign text).dropWhile Char.isDigit = tail)
    (given : whole ≠ [] ∨ fractionDigits tail ≠ []) (powered : PowerForm (afterFraction tail)) :
    (numeral? text).isSome = true := by
  have some : ¬(whole.isEmpty && (fractionDigits tail).isEmpty) = true := by
    rw [Bool.and_eq_true, List.isEmpty_iff, List.isEmpty_iff]
    rintro ⟨noWhole, noFraction⟩
    exact given.elim (absurd noWhole) (absurd noFraction)
  simp only [numeral?, front, behind, if_neg some, Option.isSome_map]
  exact exponent?_isSome_iff.2 powered

theorem numeral?_isSome_of_numeralForm {text : Text} (numeral : NumeralForm text) :
    (numeral? text).isSome = true := by
  obtain ⟨signed, written, powered⟩ := numeral
  rename_i sign mantissa power
  have stops := powered.stops
  obtain ⟨noFraction, samePower⟩ := powered.unpointed
  have body : afterSign (sign ++ mantissa ++ power) = mantissa ++ power := by
    rw [List.append_assoc]
    exact signed.afterSign_append (written.unsigned power)
  cases written with
  | whole given =>
      obtain ⟨nonempty, digits⟩ := Text.isDigits_iff.1 given
      refine numeral?_isSome_of_parts mantissa power ?_ ?_
        (Or.inl nonempty) (by rwa [samePower])
      · rw [body, stops.takeWhile_append digits]
      · rw [body, stops.dropWhile_append digits]
  | pointed given digits =>
      rename_i whole fraction
      obtain ⟨nonempty, wholeDigits⟩ := Text.isDigits_iff.1 given
      have point : StopsDigits ('.' :: (fraction ++ power)) := .cons (by decide) _
      have behind : afterFraction ('.' :: (fraction ++ power)) = power :=
        stops.dropWhile_append digits
      rw [List.append_assoc whole, List.cons_append] at body
      refine numeral?_isSome_of_parts whole ('.' :: (fraction ++ power)) ?_ ?_
        (Or.inl nonempty) (by rwa [behind])
      · rw [body, point.takeWhile_append wholeDigits]
      · rw [body, point.dropWhile_append wholeDigits]
  | fraction given =>
      rename_i fraction
      obtain ⟨nonempty, digits⟩ := Text.isDigits_iff.1 given
      have front : fractionDigits ('.' :: (fraction ++ power)) = fraction :=
        stops.takeWhile_append digits
      have behind : afterFraction ('.' :: (fraction ++ power)) = power :=
        stops.dropWhile_append digits
      rw [List.cons_append] at body
      refine numeral?_isSome_of_parts [] ('.' :: (fraction ++ power)) ?_ ?_
        (Or.inr (by rwa [front])) (by rwa [behind])
      · rw [body]
        rfl
      · rw [body]
        rfl

/-- The digits behind a point that starts a text, if there is one. -/
theorem fraction_cases (text : Text) :
    fractionDigits text = [] ∧ afterFraction text = text ∨
      '.' :: (fractionDigits text ++ afterFraction text) = text ∧
        ∀ char ∈ fractionDigits text, char.isDigit = true := by
  unfold fractionDigits afterFraction
  split
  · right
    rw [List.takeWhile_append_dropWhile]
    exact ⟨rfl, fun char member => List.all_eq_true.1 List.all_takeWhile char member⟩
  · exact Or.inl ⟨rfl, rfl⟩

theorem isDigits_takeWhile {text : Text} (given : text.takeWhile Char.isDigit ≠ []) :
    Text.isDigits (text.takeWhile Char.isDigit) = true :=
  Text.isDigits_iff.2 ⟨given, fun char member => List.all_eq_true.1 List.all_takeWhile char member⟩

/-- What stands before the power is a mantissa if it has any digit. -/
theorem exists_mantissaForm {body : Text}
    (given : ¬((body.takeWhile Char.isDigit).isEmpty &&
      (fractionDigits (body.dropWhile Char.isDigit)).isEmpty) = true) :
    ∃ mantissa, MantissaForm mantissa ∧
      mantissa ++ afterFraction (body.dropWhile Char.isDigit) = body := by
  have parts : body.takeWhile Char.isDigit ++ body.dropWhile Char.isDigit = body :=
    List.takeWhile_append_dropWhile
  rw [Bool.and_eq_true, List.isEmpty_iff, List.isEmpty_iff] at given
  rcases fraction_cases (body.dropWhile Char.isDigit) with ⟨noFraction, same⟩ | ⟨point, digits⟩
  · have nonempty : body.takeWhile Char.isDigit ≠ [] := fun none => given ⟨none, noFraction⟩
    exact ⟨_, .whole (isDigits_takeWhile nonempty), by rw [same, parts]⟩
  · by_cases nonempty : body.takeWhile Char.isDigit = []
    · have fraction := Text.isDigits_iff.2 ⟨fun none => given ⟨nonempty, none⟩, digits⟩
      refine ⟨_, .fraction fraction, ?_⟩
      rw [List.cons_append, point]
      rwa [nonempty, List.nil_append] at parts
    · refine ⟨_, .pointed (isDigits_takeWhile nonempty) digits, ?_⟩
      rw [List.append_assoc, List.cons_append, point, parts]

theorem numeral?_isSome_iff {text : Text} : (numeral? text).isSome = true ↔ NumeralForm text := by
  refine ⟨fun found => ?_, numeral?_isSome_of_numeralForm⟩
  rw [numeral?] at found
  split at found
  · cases found
  · rename_i given
    rw [Option.isSome_map] at found
    obtain ⟨sign, signed, whole⟩ := exists_signForm text
    obtain ⟨mantissa, written, body⟩ := exists_mantissaForm given
    have form := NumeralForm.compose signed written (exponent?_isSome_iff.1 found)
    rwa [List.append_assoc, body, whole] at form

instance (text : Text) : Decidable (NumeralForm text) := decidable_of_iff _ numeral?_isSome_iff

/-- A text is a number exactly when it is a numeral with any blanks around it. -/
theorem read?_isSome_iff_numeralForm (text : Text) :
    (read? text).isSome = true ↔ NumeralForm (Text.trim text) := by
  rw [read?, Option.isSome_map, numeral?_isSome_iff]

example : NumeralForm "1.e5".toList ∧ NumeralForm "-.5E+07".toList := by decide

example : ¬NumeralForm "+.".toList ∧ ¬NumeralForm "1e+".toList ∧ ¬NumeralForm "1 2".toList := by
  decide

end FrameScript.Number
