import FrameScript.Proofs.Script.Storage
import Mathlib.Data.List.Basic

/-!
# Ends of lines

A text file has a newline, a carriage return or both at the end of a line, while a script is divided
at eight further characters as well.  The two ways of reading find the same number of lines exactly
when none of these characters stands before the end of the text.
-/

namespace FrameScript.Text

theorem linesBy_congr {ends other : Char → Bool} {text : Text}
    (same : ∀ char ∈ text, ends char = other char) : linesBy ends text = linesBy other text := by
  induction text with
  | nil => rfl
  | cons first rest ih =>
      have later : ∀ char ∈ rest, ends char = other char := fun char member =>
        same char (by simp [member])
      rw [linesBy, linesBy, same first (by simp), ih later]

theorem length_startLine {first : Char} {lines : List Text} (started : lines ≠ []) :
    (startLine first lines).length = lines.length := by
  cases lines with
  | nil => exact absurd rfl started
  | cons line lines => rfl

/-- Every end of a line before the last character is followed by another line. -/
theorem length_linesBy_concat (ends : Char → Bool) (front : Text) (last : Char) :
    (linesBy ends (front ++ [last])).length = front.countP ends + 1 := by
  induction front with
  | nil =>
      rw [List.nil_append, linesBy]
      split <;> rfl
  | cons first front ih =>
      rw [List.cons_append, linesBy, List.countP_cons]
      split
      · rw [List.length_cons, ih]
      · rw [length_startLine (List.ne_nil_of_length_eq_add_one ih), ih]

/-- A last character that ends a line in one way of reading only belongs to the last line in the
other one. -/
theorem linesBy_concat_end {ends other : Char → Bool} {front : Text} {last : Char}
    (same : ∀ char ∈ front, ends char = other char) (atEnd : ends last = true)
    (inside : other last = false) :
    ∃ before line, linesBy ends (front ++ [last]) = before ++ [line] ∧
      linesBy other (front ++ [last]) = before ++ [line ++ [last]] := by
  induction front with
  | nil => exact ⟨[], [], by simp [linesBy, atEnd], by simp [linesBy, inside, startLine]⟩
  | cons first front ih =>
      obtain ⟨before, line, short, long⟩ := ih fun char member => same char (by simp [member])
      rw [List.cons_append, linesBy, linesBy, short, long, same first (by simp)]
      split
      · exact ⟨[] :: before, line, rfl, rfl⟩
      · cases before with
        | nil => exact ⟨[], first :: line, rfl, rfl⟩
        | cons start before => exact ⟨(first :: start) :: before, line, rfl, rfl⟩

/-- Whether a character ends the lines of a file whose endings are newlines. -/
def isNewline (char : Char) : Bool := char == '\n'

/-- Whether a character divides a script, but not a file whose endings are newlines. -/
def breaksLine (char : Char) : Bool := endsLine char && !isNewline char

/-- The lines of a text file, ended by a newline, a carriage return or both. -/
def fileLines (text : Text) : List Text := linesBy isNewline (normalizeNewlines text)

theorem endsLine_eq {char : Char} (whole : breaksLine char = false) :
    endsLine char = isNewline char := by
  cases newline : isNewline char with
  | false => simpa [breaksLine, newline] using whole
  | true =>
      rw [isNewline, beq_iff_eq] at newline
      rw [newline]
      decide

theorem countP_endsLine (text : Text) :
    text.countP endsLine = text.countP isNewline + text.countP breaksLine := by
  induction text with
  | nil => rfl
  | cons first rest ih =>
      rw [List.countP_cons, List.countP_cons, List.countP_cons, ih]
      cases broken : breaksLine first with
      | false =>
          rw [endsLine_eq broken, if_neg Bool.false_ne_true]
          omega
      | true =>
          rw [breaksLine, Bool.and_eq_true, Bool.not_eq_true'] at broken
          rw [broken.1, broken.2, if_pos rfl, if_neg Bool.false_ne_true]
          omega

theorem fileLines_ofLines {texts : List Text} (single : ∀ line ∈ texts, OneLine line) :
    fileLines (ofLines texts) = texts := by
  rw [fileLines, normalizeNewlines_of_notMem (return_notMem_ofLines single)]
  refine linesBy_ofLines (by decide) fun line member char inside => ?_
  cases newline : isNewline char with
  | false => rfl
  | true =>
      rw [isNewline, beq_iff_eq] at newline
      exact absurd (single line member char inside) (by rw [newline]; decide)

/-- Lines of which characters are left out are lines. -/
theorem oneLine_map {shown : Text → Text} (part : ∀ line, (shown line).Sublist line)
    {texts : List Text} (single : ∀ line ∈ texts, OneLine line) :
    ∀ line ∈ texts.map shown, OneLine line := by
  intro line member char inside
  obtain ⟨whole, listed, rfl⟩ := List.mem_map.1 member
  exact single whole listed char ((part whole).subset inside)

/-- A text has as many lines for a script as for a text file exactly when nothing but newlines
divides it before its last character. -/
theorem length_lines_eq_iff {text : Text} :
    (lines text).length = (linesBy isNewline text).length ↔
      ∀ char ∈ text.dropLast, breaksLine char = false := by
  rcases List.eq_nil_or_concat' text with rfl | ⟨front, last, rfl⟩
  · simp [lines, linesBy]
  · rw [lines, length_linesBy_concat, length_linesBy_concat, countP_endsLine, List.dropLast_concat,
      Nat.add_right_cancel_iff, Nat.add_eq_left, List.countP_eq_zero]
    simp only [Bool.not_eq_true]

/-- Lines of which there are as many in both ways of reading are the same, except that a last
character can belong to the last line of the file only. -/
theorem lines_cases {text : Text} (whole : ∀ char ∈ text.dropLast, breaksLine char = false) :
    (lines text = linesBy isNewline text ∧ ∀ last ∈ text.getLast?, breaksLine last = false) ∨
      ∃ before line last, text.getLast? = some last ∧ breaksLine last = true ∧
        lines text = before ++ [line] ∧ linesBy isNewline text = before ++ [line ++ [last]] := by
  rcases List.eq_nil_or_concat' text with rfl | ⟨front, last, rfl⟩
  · exact Or.inl ⟨rfl, by simp⟩
  · rw [List.dropLast_concat] at whole
    have same : ∀ char ∈ front, endsLine char = isNewline char :=
      fun char member => endsLine_eq (whole char member)
    cases broken : breaksLine last with
    | true =>
        have ends := broken
        rw [breaksLine, Bool.and_eq_true, Bool.not_eq_true'] at ends
        obtain ⟨before, line, short, long⟩ := linesBy_concat_end same ends.1 ends.2
        exact Or.inr ⟨before, line, last, by simp, broken, short, long⟩
    | false =>
        refine Or.inl ⟨linesBy_congr fun char member => ?_, by simp [broken]⟩
        rcases List.mem_append.1 member with inFront | atEnd
        · exact same char inFront
        · rw [List.mem_singleton.1 atEnd]
          exact endsLine_eq broken

end FrameScript.Text
