import FrameScript.Proofs.Number.Ranges

/-!
# Texts in capitals

A text in capitals has each of its characters replaced by the key that this character writes.  Keys
are blanks, digits, signs and separators exactly when the characters that write them are, so a text
in capitals is trimmed and split as the text itself.  The one letter in a numeral is the mark of a
power of ten, which may be written in either case, and no other character has it as its key; so a
number keeps its value.
-/

namespace FrameScript

theorem isCaseless_of_isDigit {char : Char} (digit : char.isDigit = true) :
    Text.isCaseless char = true := by
  rw [Number.isDigit_iff] at digit
  exact Text.isCaseless_of_lt (by omega)

theorem isDigit_keyOf (char : Char) : (keyOf char).isDigit = char.isDigit :=
  test_keyOf (fun _ => isCaseless_of_isDigit) char

namespace Text

/-- The text with each character replaced by the key that it writes. -/
def inCapitals (text : Text) : Text := text.map keyOf

theorem inCapitals_cons (first : Char) (rest : Text) :
    inCapitals (first :: rest) = keyOf first :: inCapitals rest := rfl

theorem inCapitals_of_caseless {text : Text} (caseless : ∀ char ∈ text, isCaseless char = true) :
    inCapitals text = text := by
  rw [inCapitals, List.map_congr_left fun char member => keyOf_of_caseless (caseless char member),
    List.map_id']

theorem inCapitals_of_isDigit {text : Text} (digits : ∀ char ∈ text, char.isDigit = true) :
    inCapitals text = text :=
  inCapitals_of_caseless fun char member => isCaseless_of_isDigit (digits char member)

theorem isBlank_comp_keyOf : isBlank ∘ keyOf = isBlank := funext isBlank_keyOf

theorem compact_inCapitals (text : Text) :
    compact (inCapitals text) = inCapitals (compact text) := by
  have same : (fun char => !isBlank char) ∘ keyOf = fun char => !isBlank char := by
    funext char
    rw [Function.comp_apply, isBlank_keyOf]
  rw [compact, inCapitals, List.filter_map, same, compact, inCapitals]

theorem trim_inCapitals (text : Text) : trim (inCapitals text) = inCapitals (trim text) := by
  rw [trim, trimEnd, trimStart, inCapitals, List.dropWhile_map, isBlank_comp_keyOf,
    ← List.map_reverse, List.dropWhile_map, isBlank_comp_keyOf, ← List.map_reverse, trim, trimEnd,
    trimStart, inCapitals]

theorem isDigits_inCapitals (text : Text) : isDigits (inCapitals text) = isDigits text := by
  have same : Char.isDigit ∘ keyOf = Char.isDigit := funext isDigit_keyOf
  rw [isDigits, inCapitals, List.isEmpty_map, List.all_map, same, isDigits]

theorem takeWhile_inCapitals (text : Text) :
    (inCapitals text).takeWhile Char.isDigit = text.takeWhile Char.isDigit := by
  have same : Char.isDigit ∘ keyOf = Char.isDigit := funext isDigit_keyOf
  rw [inCapitals, List.takeWhile_map, same]
  exact inCapitals_of_isDigit (List.all_eq_true.1 List.all_takeWhile)

theorem dropWhile_inCapitals (text : Text) :
    (inCapitals text).dropWhile Char.isDigit = inCapitals (text.dropWhile Char.isDigit) := by
  have same : Char.isDigit ∘ keyOf = Char.isDigit := funext isDigit_keyOf
  rw [inCapitals, List.dropWhile_map, same, inCapitals]

/-- A text in capitals is split where the text is split. -/
theorem splitOn_inCapitals {separator : Char} (caseless : isCaseless separator = true)
    (text : Text) :
    (inCapitals text).splitOn separator = (text.splitOn separator).map inCapitals := by
  induction text with
  | nil => rfl
  | cons first rest ih =>
      have same : (keyOf first == separator) = (first == separator) := by
        rw [Bool.eq_iff_iff, beq_iff_eq, beq_iff_eq]
        exact keyOf_eq_iff caseless
      rw [inCapitals_cons, List.splitOn_cons_eq_if_modifyHead, List.splitOn_cons_eq_if_modifyHead,
        same, ih]
      split
      · rfl
      · cases rest.splitOn separator <;> rfl

theorem isPrefixOf_inCapitals {mark : Text} (caseless : ∀ char ∈ mark, isCaseless char = true)
    (text : Text) : mark.isPrefixOf (inCapitals text) = mark.isPrefixOf text := by
  induction mark generalizing text with
  | nil => rfl
  | cons first rest ih =>
      cases text with
      | nil => rfl
      | cons char others =>
          have same : (first == keyOf char) = (first == char) := by
            rw [Bool.eq_iff_iff, beq_iff_eq, beq_iff_eq, eq_comm, @eq_comm _ first]
            exact keyOf_eq_iff (caseless first (by simp))
          rw [inCapitals_cons, List.isPrefixOf_cons_cons, List.isPrefixOf_cons_cons, same,
            ih fun char member => caseless char (by simp [member])]

end Text

namespace Number

open Text (inCapitals)

/-- Only the run of the small letters in the upper-case table has the mark of a power of ten among
its images. -/
theorem upperCase_runs_mark :
    Text.upperCase.runs.all (fun run =>
      run.misses 0x45 0x45 || (Nat.beq run.first 0x61 && Nat.beq run.target 0x41)) = true := by
  decide +kernel

/-- A character and its key mark a power of ten alike. -/
theorem keyOf_isMark_iff {char : Char} :
    (keyOf char = 'e' ∨ keyOf char = 'E') ↔ (char = 'e' ∨ char = 'E') := by
  constructor
  · rcases keyOf_eq_or_image char with same | ⟨run, listed, source, _, image⟩
    · rw [same]
      exact id
    have code := Text.toNat_ofNat (Text.image_scalar listed source)
    rw [← image] at code
    rintro (small | capital)
    · have fixed := keyOf_keyOf char
      rw [small] at fixed
      exact absurd fixed (by decide +kernel)
    · have clear := List.all_eq_true.1 upperCase_runs_mark run listed
      simp only [Bool.or_eq_true, Bool.and_eq_true, Nat.beq_eq] at clear
      rw [capital] at code
      change 0x45 = run.image char.toNat at code
      rcases clear with missed | ⟨first, target⟩
      · exact absurd ⟨by omega, by omega⟩ (Text.CaseRun.not_between_of_misses missed source)
      · left
        rw [Text.CaseRun.contains_iff] at source
        rw [Text.CaseRun.image] at code
        apply Char.toNat_inj.1
        change char.toNat = 0x65
        omega
  · rintro (rfl | rfl) <;> decide +kernel

theorem takeSign_inCapitals (text : Text) :
    takeSign (inCapitals text) = ((takeSign text).1, inCapitals (takeSign text).2) := by
  cases text with
  | nil => rfl
  | cons first rest =>
      rw [Text.inCapitals_cons]
      by_cases plus : first = '+'
      · subst plus
        rw [keyOf_of_caseless (by decide)]
        rfl
      by_cases minus : first = '-'
      · subst minus
        rw [keyOf_of_caseless (by decide)]
        rfl
      rw [takeSign_of_other plus minus, takeSign_of_other]
      · rfl
      · rwa [Ne, keyOf_eq_iff (by decide)]
      · rwa [Ne, keyOf_eq_iff (by decide)]

theorem isMinus_inCapitals (text : Text) : isMinus (inCapitals text) = isMinus text := by
  rw [isMinus, takeSign_inCapitals, isMinus]

theorem afterSign_inCapitals (text : Text) :
    afterSign (inCapitals text) = inCapitals (afterSign text) := by
  rw [afterSign, takeSign_inCapitals, afterSign]

theorem exponent?_inCapitals (text : Text) : exponent? (inCapitals text) = exponent? text := by
  cases text with
  | nil => rfl
  | cons mark rest =>
      rw [Text.inCapitals_cons, exponent?, exponent?, afterSign_inCapitals,
        Text.isDigits_inCapitals, isMinus_inCapitals]
      by_cases shape : (mark = 'e' ∨ mark = 'E') ∧ Text.isDigits (afterSign rest) = true
      · have digits := (Text.isDigits_iff.1 shape.2).2
        rw [if_pos ⟨keyOf_isMark_iff.2 shape.1, shape.2⟩, if_pos shape,
          Text.inCapitals_of_isDigit digits]
      · rw [if_neg fun other => shape ⟨keyOf_isMark_iff.1 other.1, other.2⟩, if_neg shape]

theorem fraction_of_other {first : Char} (other : first ≠ '.') (rest : Text) :
    fractionDigits (first :: rest) = [] ∧ afterFraction (first :: rest) = first :: rest := by
  unfold fractionDigits afterFraction
  constructor
  · split
    · rename_i shape
      exact absurd (List.cons.inj shape).1 other
    · rfl
  · split
    · rename_i shape
      exact absurd (List.cons.inj shape).1 other
    · rfl

theorem fraction_inCapitals (text : Text) :
    fractionDigits (inCapitals text) = fractionDigits text ∧
      afterFraction (inCapitals text) = inCapitals (afterFraction text) := by
  cases text with
  | nil => exact ⟨rfl, rfl⟩
  | cons first rest =>
      have same : keyOf first = '.' ↔ first = '.' := keyOf_eq_iff (by decide)
      rw [Text.inCapitals_cons]
      by_cases point : first = '.'
      · rw [same.2 point, point]
        exact ⟨Text.takeWhile_inCapitals rest, Text.dropWhile_inCapitals rest⟩
      · have before := fraction_of_other (mt same.1 point) (inCapitals rest)
        have after := fraction_of_other point rest
        rw [before.1, before.2, after.1, after.2]
        exact ⟨rfl, rfl⟩

theorem numeral?_inCapitals (text : Text) : numeral? (inCapitals text) = numeral? text := by
  rw [numeral?, numeral?, afterSign_inCapitals, Text.takeWhile_inCapitals,
    Text.dropWhile_inCapitals, (fraction_inCapitals _).1, (fraction_inCapitals _).2,
    exponent?_inCapitals, isMinus_inCapitals]

/-- A number in capitals is the same number. -/
theorem read?_inCapitals (text : Text) : read? (inCapitals text) = read? text := by
  rw [read?, Text.trim_inCapitals, numeral?_inCapitals, read?]

/-- A number in capitals is limited like the number, provided that the bounds are written in
capitals themselves. -/
theorem Range.clampText?_inCapitals {range : Range}
    (low : inCapitals (plainText range.low) = plainText range.low)
    (high : inCapitals (plainText range.high) = plainText range.high) (text : Text) :
    range.clampText? (inCapitals text) = (range.clampText? text).map inCapitals := by
  rw [clampText?, clampText?, read?_inCapitals, Option.map_map]
  congr 1
  funext number
  rw [Function.comp_apply]
  split
  · exact high.symm
  split
  · exact low.symm
  · rfl

theorem Range.clampText?_angle_inCapitals (text : Text) :
    Range.angle.clampText? (inCapitals text) = (Range.angle.clampText? text).map inCapitals :=
  clampText?_inCapitals (by decide +kernel) (by decide +kernel) text

theorem Range.clampText?_magnitude_inCapitals (text : Text) :
    Range.magnitude.clampText? (inCapitals text) =
      (Range.magnitude.clampText? text).map inCapitals :=
  clampText?_inCapitals (by decide +kernel) (by decide +kernel) text

end Number

end FrameScript
