import FrameScript.Number.Layout
import FrameScript.Number.Numeral
import FrameScript.Proofs.Input.Letters
import FrameScript.Proofs.Text.Trimming

/-!
# Written numbers

What a numeral is made of, and how the forms in which numbers are written are read: digits alone,
digits with a point among them, and either of these with a power of ten behind it.
-/

namespace FrameScript.Number

/-- A character that can stand in a numeral. -/
def isNumeralChar (char : Char) : Bool :=
  char.isDigit || char == '+' || char == '-' || char == '.' || char == 'e' || char == 'E'

theorem isDigit_iff {char : Char} :
    char.isDigit = true ↔ 0x30 ≤ char.toNat ∧ char.toNat ≤ 0x39 := by
  simp only [Char.isDigit, ge_iff_le, Bool.and_eq_true, decide_eq_true_eq]
  rfl

theorem isNumeralChar_of_isDigit {char : Char} (digit : char.isDigit = true) :
    isNumeralChar char = true := by
  simp [isNumeralChar, digit]

/-- The characters of numerals other than the marks of a power stand below the letters. -/
theorem isNumeralChar_cases {char : Char} (numeral : isNumeralChar char = true) :
    (char ≠ ',' ∧ 0x2B ≤ char.toNat ∧ char.toNat < 0x3A) ∨ char = 'e' ∨ char = 'E' := by
  simp only [isNumeralChar, Bool.or_eq_true, isDigit_iff, beq_iff_eq] at numeral
  rcases numeral with ((((digit | rfl) | rfl) | rfl) | rfl) | rfl
  · refine Or.inl ⟨?_, by omega, by omega⟩
    rintro rfl
    exact absurd digit (by decide)
  all_goals decide

theorem isBlank_of_isNumeralChar {char : Char} (numeral : isNumeralChar char = true) :
    Text.isBlank char = false := by
  rcases isNumeralChar_cases numeral with ⟨_, low, high⟩ | rfl | rfl
  · simp only [Text.isBlank, Bool.or_eq_false_iff, Bool.and_eq_false_iff, decide_eq_false_iff_not,
      beq_eq_false_iff_ne]
    omega
  all_goals decide

theorem ne_delimiter_of_isNumeralChar {char : Char} (numeral : isNumeralChar char = true) :
    char ≠ ',' := by
  rintro rfl
  exact absurd numeral (by decide)

theorem ofChar?_of_isNumeralChar {char : Char} (numeral : isNumeralChar char = true) :
    Tag.ofChar? char = none := by
  rcases isNumeralChar_cases numeral with ⟨_, _, high⟩ | rfl | rfl
  · exact Tag.ofChar?_of_lt (by omega)
  all_goals decide +kernel

/-- A text that consists of characters of numerals. -/
def NumeralText (text : Text) : Prop := ∀ char ∈ text, isNumeralChar char = true

theorem NumeralText.visible {text : Text} (numeral : NumeralText text) :
    ∀ char ∈ text, Text.isBlank char = false :=
  fun char member => isBlank_of_isNumeralChar (numeral char member)

theorem mem_afterSign {text : Text} {char : Char} (member : char ∈ text) :
    char = '+' ∨ char = '-' ∨ char ∈ afterSign text := by
  rw [afterSign]
  unfold takeSign
  split
  · rcases List.mem_cons.1 member with rfl | rest
    · exact Or.inl rfl
    · exact Or.inr (Or.inr rest)
  · rcases List.mem_cons.1 member with rfl | rest
    · exact Or.inr (Or.inl rfl)
    · exact Or.inr (Or.inr rest)
  · exact Or.inr (Or.inr member)

theorem mem_afterFraction {text : Text} {char : Char} (member : char ∈ text) :
    char = '.' ∨ char.isDigit = true ∨ char ∈ afterFraction text := by
  unfold afterFraction
  split
  · rename_i rest
    rcases List.mem_cons.1 member with rfl | later
    · exact Or.inl rfl
    · rw [← List.takeWhile_append_dropWhile (p := Char.isDigit) (l := rest), List.mem_append]
        at later
      rcases later with digit | after
      · exact Or.inr (Or.inl (List.all_eq_true.1 List.all_takeWhile char digit))
      · exact Or.inr (Or.inr after)
  · exact Or.inr (Or.inr member)

theorem exponent?_chars {text : Text} {power : Int} (found : exponent? text = some power) :
    NumeralText text := by
  cases text with
  | nil => exact fun _ member => absurd member List.not_mem_nil
  | cons mark rest =>
      rw [exponent?] at found
      split at found
      · rename_i shape
        obtain ⟨marked, digits⟩ := shape
        rw [Text.isDigits_iff] at digits
        intro char member
        rcases List.mem_cons.1 member with rfl | later
        · rcases marked with rfl | rfl <;> decide
        · rcases mem_afterSign later with rfl | rfl | digit
          · decide
          · decide
          · exact isNumeralChar_of_isDigit (digits.2 char digit)
      · cases found

/-- Everything in a numeral is a sign, a digit, a point or the mark of a power. -/
theorem numeral?_chars {text : Text} {decimal : Decimal} (found : numeral? text = some decimal) :
    NumeralText text := by
  rw [numeral?] at found
  split at found
  · cases found
  · obtain ⟨power, powerFound, _⟩ := Option.map_eq_some_iff.1 found
    intro char member
    rcases mem_afterSign member with rfl | rfl | inBody
    · decide
    · decide
    rw [← List.takeWhile_append_dropWhile (p := Char.isDigit) (l := afterSign text),
      List.mem_append] at inBody
    rcases inBody with digit | inTail
    · exact isNumeralChar_of_isDigit (List.all_eq_true.1 List.all_takeWhile char digit)
    rcases mem_afterFraction inTail with rfl | digit | after
    · decide
    · exact isNumeralChar_of_isDigit digit
    · exact exponent?_chars powerFound char after

theorem read?_of_numeral? {text : Text} {decimal : Decimal}
    (found : numeral? text = some decimal) : read? text = some decimal.toDouble := by
  rw [read?, Text.trim_of_visible (numeral?_chars found).visible, found]
  rfl

theorem numeralText_of_read? {text : Text} {number : Double} (found : read? text = some number) :
    NumeralText (Text.trim text) := by
  obtain ⟨decimal, read, _⟩ := Option.map_eq_some_iff.1 found
  exact numeral?_chars read

theorem takeSign_of_other {first : Char} (plus : first ≠ '+') (minus : first ≠ '-') (rest : Text) :
    takeSign (first :: rest) = (false, first :: rest) := by
  unfold takeSign
  split
  · rename_i shape
    exact absurd (List.cons.inj shape).1 plus
  · rename_i shape
    exact absurd (List.cons.inj shape).1 minus
  · rfl

theorem takeSign_of_isDigit {first : Char} (digit : first.isDigit = true) (rest : Text) :
    takeSign (first :: rest) = (false, first :: rest) := by
  apply takeSign_of_other
  · rintro rfl
    exact absurd digit (by decide)
  · rintro rfl
    exact absurd digit (by decide)

/-- A text that does not start with a digit. -/
def StopsDigits (text : Text) : Prop := text.takeWhile Char.isDigit = []

theorem StopsDigits.nil : StopsDigits [] := rfl

theorem StopsDigits.cons {first : Char} (other : first.isDigit = false) (rest : Text) :
    StopsDigits (first :: rest) := by
  simp [StopsDigits, other]

theorem StopsDigits.takeWhile_append {digits rest : Text} (stops : StopsDigits rest)
    (allDigits : ∀ char ∈ digits, char.isDigit = true) :
    (digits ++ rest).takeWhile Char.isDigit = digits := by
  rw [List.takeWhile_append_of_pos allDigits, stops, List.append_nil]

theorem StopsDigits.dropWhile_append {digits rest : Text} (stops : StopsDigits rest)
    (allDigits : ∀ char ∈ digits, char.isDigit = true) :
    (digits ++ rest).dropWhile Char.isDigit = rest := by
  have whole := List.takeWhile_append_dropWhile (p := Char.isDigit) (l := digits ++ rest)
  rw [stops.takeWhile_append allDigits] at whole
  exact List.append_cancel_left whole

/-- Reads a numeral without a sign from its leading digits on. -/
theorem numeral?_append {whole tail : Text} (given : whole ≠ [])
    (digits : ∀ char ∈ whole, char.isDigit = true) (stops : StopsDigits tail) :
    numeral? (whole ++ tail) =
      (exponent? (afterFraction tail)).map fun power =>
        { coefficient := digitsValue (whole ++ fractionDigits tail)
          exponent := power - (fractionDigits tail).length } := by
  obtain ⟨first, rest, rfl⟩ := List.exists_cons_of_ne_nil given
  have unsigned := takeSign_of_isDigit (digits first (by simp)) (rest ++ tail)
  rw [List.cons_append] at *
  rw [numeral?, afterSign, isMinus, unsigned]
  simp only [← List.cons_append, stops.takeWhile_append digits, stops.dropWhile_append digits]
  simp

/-- A sign in front of a numeral that starts with a digit. -/
theorem numeral?_signText (negative : Bool) {text : Text} {decimal : Decimal}
    (starts : ∃ first rest, text = first :: rest ∧ first.isDigit = true)
    (found : numeral? text = some decimal) :
    numeral? (signText negative ++ text) = some { decimal with negative } := by
  obtain ⟨first, rest, rfl, digit⟩ := starts
  have unsigned := takeSign_of_isDigit digit rest
  have plain : decimal.negative = false := by
    rw [numeral?, isMinus, unsigned] at found
    simp only at found
    split at found
    · cases found
    · obtain ⟨power, _, rfl⟩ := Option.map_eq_some_iff.1 found
      rfl
  cases negative with
  | false =>
      rw [signText, if_neg Bool.false_ne_true, List.nil_append, found, ← plain]
  | true =>
      have signed : takeSign ('-' :: first :: rest) = (true, first :: rest) := rfl
      rw [signText, if_pos rfl, List.singleton_append, numeral?, afterSign, isMinus, signed]
      rw [numeral?, afterSign, isMinus, unsigned] at found
      simp only at found ⊢
      split at found
      · cases found
      · rename_i given
        obtain ⟨power, powerFound, rfl⟩ := Option.map_eq_some_iff.1 found
        rw [if_neg given, powerFound]
        rfl

end FrameScript.Number
