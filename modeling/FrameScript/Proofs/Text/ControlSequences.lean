import FrameScript.Text.ControlSequence
import FrameScript.Text.Lines

/-!
# Texts without control sequences

Leaving out the control sequences of a text leaves some of its characters, in their order.  No
sequence goes beyond the end of a line, so the lines of a text are worked on one by one.  A text
stays as it is exactly when it has no control sequence.
-/

namespace FrameScript.Text

section

variable {occurrence? : Text → Option Occurrence}

/-- What is left of a text from which occurrences are taken out. -/
theorem replaceSkipping_sublist
    (vacant : ∀ text found, occurrence? text = some found → found.replacement = [])
    (skipped : Nat) (text : Text) : (replaceSkipping occurrence? skipped text).Sublist text := by
  induction text generalizing skipped with
  | nil => cases skipped <;> exact List.Sublist.refl []
  | cons first rest ih =>
      cases skipped with
      | succ skipped => exact (ih skipped).cons first
      | zero =>
          rw [replaceSkipping]
          split
          · exact (ih 0).cons_cons first
          · rename_i found here
            rw [vacant _ found here, List.nil_append]
            exact (ih found.further).cons first

/-- A text from which occurrences are taken out stays as it is exactly when none starts in it. -/
theorem replaceAll_eq_self_iff
    (vacant : ∀ text found, occurrence? text = some found → found.replacement = [])
    (text : Text) :
    replaceAll occurrence? text = text ↔
      ∀ before first rest, text = before ++ first :: rest → occurrence? (first :: rest) = none := by
  rw [replaceAll]
  induction text with
  | nil => simp [replaceSkipping]
  | cons first rest ih =>
      rw [replaceSkipping]
      cases here : occurrence? (first :: rest) with
      | some found =>
          refine ⟨fun same => ?_, fun none => ?_⟩
          · have shorter := (replaceSkipping_sublist vacant found.further rest).length_le
            dsimp only at same
            rw [vacant _ found here, List.nil_append] at same
            rw [same, List.length_cons] at shorter
            omega
          · cases here.symm.trans (none [] first rest rfl)
      | none =>
          dsimp only
          rw [List.cons.injEq, and_iff_right rfl, ih]
          constructor
          · intro later before start behind shape
            cases before with
            | nil =>
                cases shape
                exact here
            | cons other before =>
                cases shape
                exact later before start behind rfl
          · intro all before start behind shape
            exact all (first :: before) start behind (by rw [shape, List.cons_append])

/-- A character over which no occurrence extends divides a text. -/
theorem replaceSkipping_cut {cut : Char} {rest : Text} (starts : occurrence? (cut :: rest) = none)
    (stays : ∀ text, occurrence? (text ++ cut :: rest) = occurrence? text)
    (inside : ∀ first text found, occurrence? (first :: text) = some found →
      found.further ≤ text.length)
    {skipped : Nat} {text : Text} (within : skipped ≤ text.length) :
    replaceSkipping occurrence? skipped (text ++ cut :: rest) =
      replaceSkipping occurrence? skipped text ++ cut :: replaceAll occurrence? rest := by
  induction text generalizing skipped with
  | nil =>
      obtain rfl : skipped = 0 := Nat.le_zero.1 within
      simp only [List.nil_append, replaceSkipping, starts]
      rfl
  | cons first text ih =>
      cases skipped with
      | succ skipped => exact ih (Nat.le_of_succ_le_succ within)
      | zero =>
          rw [List.cons_append, replaceSkipping, replaceSkipping, ← List.cons_append, stays]
          cases here : occurrence? (first :: text) with
          | none =>
              dsimp only
              rw [ih (Nat.zero_le _), List.cons_append]
          | some found =>
              dsimp only
              rw [ih (inside first text found here), List.append_assoc]

end

/-! ## Control sequences -/

/-- An escape character, an opening bracket, parameters and a letter. -/
def IsSequence (text : Text) : Prop :=
  ∃ parameters letter, (∀ char ∈ parameters, isParameter char = true) ∧
    Char.isAlpha letter = true ∧ text = escapeCharacter :: '[' :: (parameters ++ [letter])

/-- A text in which a control sequence stands. -/
def HasSequence (text : Text) : Prop :=
  ∃ before sequence after, IsSequence sequence ∧ text = before ++ (sequence ++ after)

theorem lt_of_isAlpha {char : Char} (letter : char.isAlpha = true) : '9' < char := by
  rcases Bool.or_eq_true_iff.1 letter with upper | lower
  · have least : 'A' ≤ char := (of_decide_eq_true upper).1
    exact Nat.lt_of_lt_of_le (by decide : '9'.toNat < 'A'.toNat) least
  · have least : 'a' ≤ char := of_decide_eq_true (Bool.and_eq_true_iff.1 lower).1
    exact Nat.lt_of_lt_of_le (by decide : '9'.toNat < 'a'.toNat) least

theorem isParameter_of_isAlpha {char : Char} (letter : char.isAlpha = true) :
    isParameter char = false := by
  cases parameter : isParameter char with
  | false => rfl
  | true =>
      rw [isParameter, Bool.or_eq_true, Bool.or_eq_true, beq_iff_eq, beq_iff_eq] at parameter
      rcases parameter with (digit | rfl) | rfl
      · have most : char ≤ '9' := of_decide_eq_true (Bool.and_eq_true_iff.1 digit).2
        exact absurd (lt_of_isAlpha letter) (Char.not_lt.2 most)
      · cases letter
      · cases letter

theorem controlSequence?_eq_some_iff {text : Text} {found : Occurrence} :
    controlSequence? text = some found ↔
      ∃ sequence after, IsSequence sequence ∧ text = sequence ++ after ∧
        found = ⟨[], sequence.length - 1⟩ := by
  constructor
  · intro here
    rw [controlSequence?.eq_def] at here
    split at here
    · rename_i first second rest
      split at here
      · rename_i opened
        obtain ⟨rfl, rfl⟩ := opened
        have parts : rest.takeWhile isParameter ++ rest.dropWhile isParameter = rest :=
          List.takeWhile_append_dropWhile
        cases behind : rest.dropWhile isParameter with
        | nil =>
            rw [behind] at here
            cases here
        | cons letter after =>
            rw [behind] at here parts
            dsimp only at here
            split at here
            · rename_i alpha
              cases here
              refine ⟨_, after, ⟨rest.takeWhile isParameter, letter,
                List.all_eq_true.1 List.all_takeWhile, alpha, rfl⟩, ?_, ?_⟩
              · simp [parts]
              · simp
            · cases here
      · cases here
    · cases here
  · rintro ⟨_, after, ⟨parameters, letter, inside, alpha, rfl⟩, rfl, rfl⟩
    have stops := isParameter_of_isAlpha alpha
    simp [controlSequence?, List.dropWhile_append_of_pos inside,
      List.takeWhile_append_of_pos inside, stops, alpha]

theorem newline_notMem_of_isSequence {sequence : Text} (control : IsSequence sequence) :
    '\n' ∉ sequence := by
  obtain ⟨parameters, letter, inside, alpha, rfl⟩ := control
  intro member
  simp only [List.mem_cons, List.mem_append, List.not_mem_nil, or_false] at member
  rcases member with escape | bracket | parameter | last
  · cases escape
  · cases bracket
  · exact absurd (inside _ parameter) (by decide)
  · rw [← last] at alpha
    cases alpha

theorem controlSequence?_vacant (text : Text) (found : Occurrence)
    (here : controlSequence? text = some found) : found.replacement = [] := by
  obtain ⟨_, _, _, _, rfl⟩ := controlSequence?_eq_some_iff.1 here
  rfl

theorem controlSequence?_inside (first : Char) (text : Text) (found : Occurrence)
    (here : controlSequence? (first :: text) = some found) : found.further ≤ text.length := by
  obtain ⟨sequence, after, _, shape, rfl⟩ := controlSequence?_eq_some_iff.1 here
  have lengths := congrArg List.length shape
  rw [List.length_cons, List.length_append] at lengths
  dsimp only
  omega

/-- What stands behind a newline does not complete a control sequence in front of it. -/
theorem controlSequence?_newline (text rest : Text) :
    controlSequence? (text ++ '\n' :: rest) = controlSequence? text := by
  refine Option.ext fun found => ?_
  rw [controlSequence?_eq_some_iff, controlSequence?_eq_some_iff]
  constructor
  · rintro ⟨sequence, after, control, shape, rfl⟩
    have absent := newline_notMem_of_isSequence control
    rcases List.append_eq_append_iff.1 shape with ⟨more, rfl, behind⟩ | ⟨more, rfl, _⟩
    · cases more with
      | nil => exact ⟨text, [], by simpa using control, by simp, by simp⟩
      | cons first others =>
          cases behind
          exact absurd (by simp) absent
    · exact ⟨sequence, more, control, rfl, rfl⟩
  · rintro ⟨sequence, after, control, rfl, rfl⟩
    exact ⟨sequence, after ++ '\n' :: rest, control, List.append_assoc .., rfl⟩

theorem withoutSequences_sublist (text : Text) : (withoutSequences text).Sublist text :=
  replaceSkipping_sublist controlSequence?_vacant 0 text

/-- A text stays as it is exactly when it has no control sequence. -/
theorem withoutSequences_eq_self_iff {text : Text} :
    withoutSequences text = text ↔ ¬HasSequence text := by
  rw [withoutSequences, replaceAll_eq_self_iff controlSequence?_vacant]
  constructor
  · rintro none ⟨before, _, after, ⟨parameters, letter, inside, alpha, rfl⟩, rfl⟩
    have here := controlSequence?_eq_some_iff.2
      ⟨_, after, ⟨parameters, letter, inside, alpha, rfl⟩, rfl, rfl⟩
    cases here.symm.trans (none before _ _ rfl)
  · intro free before first rest shape
    cases here : controlSequence? (first :: rest) with
    | none => rfl
    | some found =>
        obtain ⟨sequence, after, control, behind, _⟩ := controlSequence?_eq_some_iff.1 here
        exact absurd ⟨before, sequence, after, control, by rw [shape, behind]⟩ free

theorem withoutSequences_newline (line rest : Text) :
    withoutSequences (line ++ '\n' :: rest) =
      withoutSequences line ++ '\n' :: withoutSequences rest :=
  replaceSkipping_cut (controlSequence?_of_ne (by decide) rest)
    (fun text => controlSequence?_newline text rest) controlSequence?_inside (Nat.zero_le _)

/-- Control sequences are left out line by line. -/
theorem withoutSequences_ofLines (lines : List Text) :
    withoutSequences (ofLines lines) = ofLines (lines.map withoutSequences) := by
  induction lines with
  | nil => rfl
  | cons line rest ih =>
      rw [ofLines, List.flatMap_cons, ← ofLines, List.append_assoc, List.singleton_append,
        withoutSequences_newline, ih, List.map_cons]
      simp [ofLines]

end FrameScript.Text
