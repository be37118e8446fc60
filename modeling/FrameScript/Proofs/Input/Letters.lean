import FrameScript.Input.Basic
import FrameScript.Text.Blank

/-!
# Letters and keys

The upper-case table has no chains: no image of a run lies in a run again, and none has a longer
image.  So the key of a key is that key.  The table also leaves alone everything below the capital
letters and every blank, in both directions, so keys are delimiters, digits or blanks exactly when
the characters they were written by are.
-/

namespace FrameScript

namespace Text

namespace CaseRun

/-- The image of the last character of a run. -/
def imageLast (run : CaseRun) : Nat := run.target + (run.last - run.first)

/-- Whether the images of a run lie outside of a range. -/
def misses (run : CaseRun) (first last : Nat) : Bool :=
  Nat.blt last run.target || Nat.blt run.imageLast first

/-- Whether the images of a run lie outside of another run: their ranges are apart, or both go in
steps of two and the images fall between the characters. -/
def avoids (run other : CaseRun) : Bool :=
  run.misses other.first other.last ||
    ((Nat.beq run.stride 2 || Nat.beq run.first run.last) && Nat.beq other.stride 2 &&
      Nat.beq ((run.target + other.first) % 2) 1)

theorem contains_iff {run : CaseRun} {code : Nat} :
    run.contains code = true ↔
      (run.first ≤ code ∧ code ≤ run.last) ∧ (code - run.first) % run.stride = 0 := by
  simp [contains]

theorem not_between_of_misses {run : CaseRun} {first last code : Nat}
    (missed : run.misses first last = true) (source : run.contains code = true) :
    ¬(first ≤ run.image code ∧ run.image code ≤ last) := by
  simp only [misses, imageLast, Bool.or_eq_true, Nat.blt_eq] at missed
  rw [contains_iff] at source
  rw [image]
  omega

theorem not_contains_image {run other : CaseRun} {code : Nat} (apart : run.avoids other = true)
    (source : run.contains code = true) : other.contains (run.image code) = false := by
  rw [avoids, Bool.or_eq_true] at apart
  rw [← Bool.not_eq_true, contains_iff]
  rcases apart with missed | between
  · exact fun inside => not_between_of_misses missed source inside.1
  · simp only [Bool.and_eq_true, Bool.or_eq_true, Nat.beq_eq] at between
    obtain ⟨⟨steps, two⟩, odd⟩ := between
    rw [contains_iff] at source
    rintro ⟨range, multiple⟩
    rw [two] at multiple
    rw [image] at range multiple
    rcases steps with stride | single
    · rw [stride] at source
      omega
    · omega

end CaseRun

/-- Everything below the capital letters, and the blanks above them. -/
def caselessRanges : List (Nat × Nat) := [
  (0x00, 0x40), (0x85, 0x85), (0xA0, 0xA0), (0x1680, 0x1680), (0x2000, 0x200A), (0x2028, 0x2029),
  (0x202F, 0x202F), (0x205F, 0x205F), (0x3000, 0x3000)]

/-- A character that is neither the source nor the image of another one in the upper-case table. -/
def isCaseless (char : Char) : Bool := liesIn caselessRanges char

theorem isCaseless_iff {char : Char} :
    isCaseless char = true ↔
      ∃ range ∈ caselessRanges, range.1 ≤ char.toNat ∧ char.toNat ≤ range.2 := by
  simp [isCaseless, liesIn]

theorem isCaseless_of_isBlank {char : Char} (blank : isBlank char = true) :
    isCaseless char = true := by
  simp only [isBlank, Bool.or_eq_true, Bool.and_eq_true, decide_eq_true_eq, beq_iff_eq] at blank
  simp only [isCaseless, liesIn, caselessRanges, List.any_cons, List.any_nil, Bool.or_eq_true,
    Bool.and_eq_true, decide_eq_true_eq]
  omega

theorem isCaseless_of_lt {char : Char} (low : char.toNat < 0x41) : isCaseless char = true :=
  isCaseless_iff.2 ⟨(0x00, 0x40), by decide, by omega⟩

theorem upperCase_runs_avoid :
    upperCase.runs.all (fun run => upperCase.runs.all fun other => run.avoids other) = true := by
  decide +kernel

theorem upperCase_runs_unexpanded :
    upperCase.runs.all (fun run =>
      upperCase.expansions.all fun entry => run.misses entry.1 entry.1) = true := by
  decide +kernel

theorem upperCase_expansions_long :
    upperCase.expansions.all (fun entry => 2 ≤ entry.2.length) = true := by
  decide +kernel

theorem upperCase_runs_caseless :
    upperCase.runs.all (fun run =>
      caselessRanges.all fun range =>
        run.misses range.1 range.2 && (Nat.blt range.2 run.first || Nat.blt run.last range.1)) =
      true := by
  decide +kernel

theorem upperCase_expansions_caseless :
    upperCase.expansions.all (fun entry =>
      caselessRanges.all fun range => Nat.blt entry.1 range.1 || Nat.blt range.2 entry.1) =
      true := by
  decide +kernel

theorem upperCase_runs_scalar :
    upperCase.runs.all (fun run =>
      run.misses 0xD800 0xDFFF && Nat.blt run.imageLast 0x110000) = true := by
  decide +kernel

theorem toNat_ofNat {code : Nat} (scalar : code.isValidChar) : (Char.ofNat code).toNat = code := by
  rw [Char.ofNat, dif_pos scalar]
  rfl

section Image

variable {run : CaseRun} {code : Nat}

theorem image_scalar (listed : run ∈ upperCase.runs) (source : run.contains code = true) :
    (run.image code).isValidChar := by
  have bounds := List.all_eq_true.1 upperCase_runs_scalar run listed
  rw [Bool.and_eq_true, Nat.blt_eq, CaseRun.imageLast] at bounds
  have outside := CaseRun.not_between_of_misses bounds.1 source
  rw [CaseRun.contains_iff] at source
  rw [CaseRun.image] at outside ⊢
  rw [Nat.isValidChar]
  omega

theorem image_unexpanded (listed : run ∈ upperCase.runs) (source : run.contains code = true) :
    upperCase.expansions.lookup (run.image code) = none := by
  rw [List.lookup_eq_none_iff]
  intro entry member
  have missed := List.all_eq_true.1
    (List.all_eq_true.1 upperCase_runs_unexpanded run listed) entry member
  have outside := CaseRun.not_between_of_misses missed source
  rw [bne_iff_ne]
  omega

theorem image_isolated (listed : run ∈ upperCase.runs) (source : run.contains code = true) :
    upperCase.runs.find? (fun other => other.contains (run.image code)) = none := by
  rw [List.find?_eq_none]
  intro other member
  have apart := List.all_eq_true.1
    (List.all_eq_true.1 upperCase_runs_avoid run listed) other member
  rw [CaseRun.not_contains_image apart source]
  exact Bool.false_ne_true

/-- An image of the table is its own upper case. -/
theorem upper_image (listed : run ∈ upperCase.runs) (source : run.contains code = true) :
    upper (Char.ofNat (run.image code)) = [Char.ofNat (run.image code)] := by
  rw [upper, CaseMap.apply, CaseMap.image, toNat_ofNat (image_scalar listed source),
    image_unexpanded listed source, image_isolated listed source]
  rfl

theorem image_not_caseless (listed : run ∈ upperCase.runs) (source : run.contains code = true) :
    isCaseless (Char.ofNat (run.image code)) = false := by
  rw [← Bool.not_eq_true, isCaseless_iff, toNat_ofNat (image_scalar listed source)]
  rintro ⟨range, member, inside⟩
  have clear := List.all_eq_true.1
    (List.all_eq_true.1 upperCase_runs_caseless run listed) range member
  rw [Bool.and_eq_true] at clear
  exact CaseRun.not_between_of_misses clear.1 source inside

end Image

/-- The upper case of a character is longer than one character, the character itself, or its image
in a run. -/
theorem upper_cases (char : Char) :
    2 ≤ (upper char).length ∨ upper char = [char] ∨
      ∃ run ∈ upperCase.runs, run.contains char.toNat = true ∧
        upper char = [Char.ofNat (run.image char.toNat)] := by
  rw [upper, CaseMap.apply, CaseMap.image]
  cases longer : upperCase.expansions.lookup char.toNat with
  | some codes =>
      left
      obtain ⟨before, after, shape, _⟩ := List.lookup_eq_some_iff.1 longer
      have member : (char.toNat, codes) ∈ upperCase.expansions := by simp [shape]
      simpa using List.all_eq_true.1 upperCase_expansions_long _ member
  | none =>
      right
      cases found : upperCase.runs.find? fun run => run.contains char.toNat with
      | none => exact Or.inl (by simp)
      | some run =>
          have source := List.find?_some found
          exact Or.inr ⟨run, List.mem_of_find?_eq_some found, source, rfl⟩

theorem upper_of_caseless {char : Char} (caseless : isCaseless char = true) :
    upper char = [char] := by
  obtain ⟨range, member, inside⟩ := isCaseless_iff.1 caseless
  rw [upper, CaseMap.apply, CaseMap.image]
  cases longer : upperCase.expansions.lookup char.toNat with
  | some codes =>
      obtain ⟨before, after, shape, _⟩ := List.lookup_eq_some_iff.1 longer
      have listed : (char.toNat, codes) ∈ upperCase.expansions := by simp [shape]
      have clear := List.all_eq_true.1
        (List.all_eq_true.1 upperCase_expansions_caseless _ listed) range member
      simp only [Bool.or_eq_true, Nat.blt_eq] at clear
      omega
  | none =>
      cases found : upperCase.runs.find? fun run => run.contains char.toNat with
      | none => simp
      | some run =>
          have clear := List.all_eq_true.1 (List.all_eq_true.1 upperCase_runs_caseless run
            (List.mem_of_find?_eq_some found)) range member
          have source := List.find?_some found
          simp only [Bool.and_eq_true, Bool.or_eq_true, Nat.blt_eq] at clear
          rw [CaseRun.contains_iff] at source
          omega

end Text

/-! ## Keys -/

theorem keyOf_of_caseless {char : Char} (caseless : Text.isCaseless char = true) :
    keyOf char = char := by
  rw [keyOf, Text.upper_of_caseless caseless]

/-- A key is the character that wrote it or the image of that character in a run. -/
theorem keyOf_eq_or_image (char : Char) :
    keyOf char = char ∨
      ∃ run ∈ Text.upperCase.runs, run.contains char.toNat = true ∧
        Text.upper char = [keyOf char] ∧ keyOf char = Char.ofNat (run.image char.toNat) := by
  rcases Text.upper_cases char with long | same | ⟨run, listed, source, image⟩
  · left
    rw [keyOf]
    split
    · rename_i single
      simp [single] at long
    · rfl
  · left
    rw [keyOf, same]
  · have key : keyOf char = Char.ofNat (run.image char.toNat) := by rw [keyOf, image]
    exact Or.inr ⟨run, listed, source, by rw [image, key], key⟩

/-- A key is the character that wrote it or an image of the upper-case table. -/
theorem keyOf_cases (char : Char) :
    keyOf char = char ∨
      (Text.upper (keyOf char) = [keyOf char] ∧ Text.isCaseless (keyOf char) = false) := by
  rcases keyOf_eq_or_image char with same | ⟨run, listed, source, _, image⟩
  · exact Or.inl same
  · rw [image]
    exact Or.inr ⟨Text.upper_image listed source, Text.image_not_caseless listed source⟩

/-- The key written by a key is that key. -/
theorem keyOf_keyOf (char : Char) : keyOf (keyOf char) = keyOf char := by
  rcases keyOf_cases char with same | ⟨upper, _⟩
  · rw [same, same]
  · rw [keyOf, upper]

theorem isCaseless_keyOf (char : Char) :
    Text.isCaseless (keyOf char) = Text.isCaseless char := by
  cases caseless : Text.isCaseless char with
  | true => rw [keyOf_of_caseless caseless, caseless]
  | false =>
      rcases keyOf_cases char with same | ⟨_, plain⟩
      · rw [same, caseless]
      · exact plain

/-- A caseless key is written by itself only. -/
theorem keyOf_eq_iff {char key : Char} (caseless : Text.isCaseless key = true) :
    keyOf char = key ↔ char = key := by
  constructor
  · rintro rfl
    rw [isCaseless_keyOf] at caseless
    exact (keyOf_of_caseless caseless).symm
  · rintro rfl
    exact keyOf_of_caseless caseless

/-- A test that only caseless characters pass does not tell a character from its key. -/
theorem test_keyOf {test : Char → Bool}
    (caseless : ∀ char, test char = true → Text.isCaseless char = true) (char : Char) :
    test (keyOf char) = test char := by
  have failed (other : Char) (cased : Text.isCaseless other = false) : test other = false := by
    cases passed : test other with
    | false => rfl
    | true => simp [caseless other passed] at cased
  cases here : Text.isCaseless char with
  | true => rw [keyOf_of_caseless here]
  | false => rw [failed char here, failed _ (by rw [isCaseless_keyOf, here])]

theorem isBlank_keyOf (char : Char) : Text.isBlank (keyOf char) = Text.isBlank char :=
  test_keyOf (fun _ => Text.isCaseless_of_isBlank) char

namespace Tag

theorem ofChar?_of_upper {char letter : Char} (upper : Text.upper char = [letter]) :
    ofChar? char = ofLetter? letter := by
  simp [ofChar?, ofText?, Text.upperText, upper]

theorem letter_range (tag : Tag) : 0x41 ≤ tag.letter.toNat ∧ tag.letter.toNat ≤ 0x5A := by
  have bounds : all.all (fun tag => 0x41 ≤ tag.letter.toNat && tag.letter.toNat ≤ 0x5A) = true := by
    decide
  simpa using List.all_eq_true.1 bounds tag (mem_all tag)

theorem ofChar?_letter (tag : Tag) : ofChar? tag.letter = some tag := by
  have read : all.all (fun tag => ofChar? tag.letter == some tag) = true := by decide +kernel
  simpa using List.all_eq_true.1 read tag (mem_all tag)

/-- A character and its key write the same tag. -/
theorem ofChar?_keyOf (char : Char) : ofChar? (keyOf char) = ofChar? char := by
  rcases keyOf_eq_or_image char with same | ⟨run, listed, source, upper, image⟩
  · rw [same]
  · have single := Text.upper_image listed source
    rw [← image] at single
    rw [ofChar?_of_upper single, ofChar?_of_upper upper]

/-- Nothing below the capital letters writes a tag. -/
theorem ofChar?_of_lt {char : Char} (low : char.toNat < 0x41) : ofChar? char = none := by
  rw [ofChar?_of_upper (Text.upper_of_caseless (Text.isCaseless_of_lt low))]
  cases found : ofLetter? char with
  | none => rfl
  | some tag =>
      have bounds := letter_range tag
      rw [letter_of_ofLetter? found] at bounds
      omega

end Tag

end FrameScript
