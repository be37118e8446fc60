import FrameScript.CommandLine
import FrameScript.Proofs.Text.Division

/-!
# The parts of a command line

A line that is not blank has a name, which ends at the first separating character, and that
character tells the separator of the whole line.  The line is divided at the separator and at
nothing else, so its parts give it back.
-/

namespace FrameScript.CommandLine

/-- The longest start of a line without a separating character. -/
def nameOf (line : Text) : Text := line.takeWhile fun char => !isSeparating char

/-- How a line is split.  A line without a separating character has a name only.  Otherwise a blank
behind the name starts a separator of blanks, a comma one that goes on with the blanks behind it,
and the line is divided at each occurrence of its separator. -/
structure Splits (line : Text) (parsed : CommandLine) : Prop where
  source : parsed.source = line
  command : parsed.command = nameOf line
  joined : parsed.separator.intercalate (parsed.command :: parsed.arguments) = line
  single : (∀ char ∈ line, isSeparating char = false) →
    parsed.separator = [] ∧ parsed.arguments = []
  blanks : ∀ first rest, line = nameOf line ++ first :: rest → Text.isBlank first = true →
    parsed.separator = (first :: rest).takeWhile Text.isBlank
  comma : ∀ rest, line = nameOf line ++ ',' :: rest →
    parsed.separator = ',' :: rest.takeWhile Text.isBlank
  divided : (∃ char ∈ line, isSeparating char = true) →
    Text.Divided parsed.separator line (parsed.command :: parsed.arguments) ∧
      ∀ part ∈ parsed.command :: parsed.arguments, ¬parsed.separator <:+: part

variable {line : Text}

theorem isSeparating_of_mem_nameOf {char : Char} (member : char ∈ nameOf line) :
    isSeparating char = false := by
  have kept := List.all_eq_true.1 List.all_takeWhile char member
  simpa using kept

theorem nameOf_append (line : Text) :
    nameOf line ++ line.dropWhile (fun char => !isSeparating char) = line :=
  List.takeWhile_append_dropWhile

/-- Behind the name of a line there is nothing, or a separating character. -/
theorem nameOf_cases (line : Text) :
    (nameOf line = line ∧ ∀ char ∈ line, isSeparating char = false) ∨
      ∃ first rest, line = nameOf line ++ first :: rest ∧ isSeparating first = true := by
  have parts := nameOf_append line
  cases behind : line.dropWhile fun char => !isSeparating char with
  | nil =>
      rw [behind, List.append_nil] at parts
      refine Or.inl ⟨parts, fun char member => ?_⟩
      rw [← parts] at member
      exact isSeparating_of_mem_nameOf member
  | cons first rest =>
      rw [behind] at parts
      refine Or.inr ⟨first, rest, parts.symm, ?_⟩
      have stops := List.head_dropWhile_not (fun char => !isSeparating char) (l := line)
        (by simp [behind])
      simpa [behind] using stops

theorem dropWhile_of_nameOf {first : Char} {rest : Text}
    (shape : line = nameOf line ++ first :: rest) :
    line.dropWhile (fun char => !isSeparating char) = first :: rest :=
  List.append_cancel_left ((nameOf_append line).trans shape)

theorem separatorOf_of_single (name : nameOf line = line) : separatorOf line = [] := by
  have parts := nameOf_append line
  rw [name, List.append_right_eq_self] at parts
  rw [separatorOf, parts]

theorem separatorOf_of_nameOf {first : Char} {rest : Text}
    (shape : line = nameOf line ++ first :: rest) :
    separatorOf line = first :: rest.takeWhile Text.isBlank := by
  rw [separatorOf, dropWhile_of_nameOf shape]

/-- The name is the first part of a line that is divided at its separator. -/
theorem divide_separatorOf {first : Char} {rest : Text}
    (shape : line = nameOf line ++ first :: rest) (separates : isSeparating first = true) :
    Text.divide (separatorOf line) line =
      nameOf line :: Text.divide (separatorOf line) (rest.dropWhile Text.isBlank) := by
  have absent : first ∉ nameOf line := by
    intro member
    rw [isSeparating_of_mem_nameOf member] at separates
    cases separates
  have whole : line = nameOf line ++ separatorOf line ++ rest.dropWhile Text.isBlank := by
    rw [separatorOf_of_nameOf shape, List.append_assoc, List.cons_append,
      List.takeWhile_append_dropWhile]
    exact shape
  have leftmost : ¬separatorOf line <:+: (nameOf line ++ separatorOf line).dropLast := by
    rw [separatorOf_of_nameOf shape]
    exact Text.not_infix_dropLast absent
  have given : separatorOf line ≠ [] := by
    rw [separatorOf_of_nameOf shape]
    exact List.cons_ne_nil _ _
  have cut := Text.divide_of_cut given leftmost (rest.dropWhile Text.isBlank)
  rwa [← whole] at cut

theorem read?_of_single (shown : Text.isVacant line = false) (name : nameOf line = line) :
    read? line = some { command := line, arguments := [], source := line, separator := [] } := by
  rw [read?, if_neg (by simp [shown]), separatorOf_of_single name]

theorem read?_of_nameOf (shown : Text.isVacant line = false) {first : Char} {rest : Text}
    (shape : line = nameOf line ++ first :: rest) (separates : isSeparating first = true) :
    read? line = some {
      command := nameOf line
      arguments := Text.divide (separatorOf line) (rest.dropWhile Text.isBlank)
      source := line
      separator := separatorOf line } := by
  have parts := divide_separatorOf shape separates
  rw [read?, if_neg (by simp [shown])]
  rw [separatorOf_of_nameOf shape] at parts ⊢
  dsimp only
  rw [parts]
  rfl

theorem splits_of_single (single : ∀ char ∈ line, isSeparating char = false)
    (name : nameOf line = line) :
    Splits line { command := line, arguments := [], source := line, separator := [] } where
  source := rfl
  command := name.symm
  joined := List.intercalate_singleton
  single := fun _ => ⟨rfl, rfl⟩
  blanks := by
    intro first rest shape
    rw [name] at shape
    exact absurd (congrArg List.length shape) (by simp)
  comma := by
    intro rest shape
    rw [name] at shape
    exact absurd (congrArg List.length shape) (by simp)
  divided := by
    rintro ⟨char, member, separates⟩
    rw [single char member] at separates
    cases separates

theorem splits_of_nameOf {first : Char} {rest : Text}
    (shape : line = nameOf line ++ first :: rest) (separates : isSeparating first = true) :
    Splits line {
      command := nameOf line
      arguments := Text.divide (separatorOf line) (rest.dropWhile Text.isBlank)
      source := line
      separator := separatorOf line } := by
  have given : separatorOf line ≠ [] := by
    rw [separatorOf_of_nameOf shape]
    exact List.cons_ne_nil _ _
  have divided := (Text.divided_iff given).2 (divide_separatorOf shape separates)
  refine ⟨rfl, rfl, divided.joined, fun single => ?_, ?_, ?_, fun _ => ⟨divided, divided.absent⟩⟩
  · rw [single first (by rw [shape]; simp)] at separates
    cases separates
  · intro start behind same blank
    rw [List.takeWhile_cons, if_pos blank]
    exact separatorOf_of_nameOf same
  · intro behind same
    exact separatorOf_of_nameOf same

theorem exists_splits (shown : Text.isVacant line = false) :
    ∃ parsed, read? line = some parsed ∧ Splits line parsed := by
  rcases nameOf_cases line with ⟨name, single⟩ | ⟨first, rest, shape, separates⟩
  · exact ⟨_, read?_of_single shown name, splits_of_single single name⟩
  · exact ⟨_, read?_of_nameOf shown shape separates, splits_of_nameOf shape separates⟩

/-- A blank line is no command.  Every other line is split: its name is its command, and its parts
have no occurrence of its separator and give the line back. -/
theorem read?_splits (line : Text) :
    (read? line = none ↔ ∀ char ∈ line, Text.isBlank char = true) ∧
      ∀ parsed, read? line = some parsed → Splits line parsed := by
  rw [← List.all_eq_true]
  change (read? line = none ↔ Text.isVacant line = true) ∧ _
  cases vacant : Text.isVacant line with
  | true =>
      have missing : read? line = none := by rw [read?, if_pos vacant]
      simp [missing]
  | false =>
      obtain ⟨parsed, found, splits⟩ := exists_splits vacant
      refine ⟨by simp [found], fun other same => ?_⟩
      cases found.symm.trans same
      exact splits

/-- Two blanks separate the parts, the third blank of a longer run belongs to a part, and so do a
single blank and a comma. -/
theorem read?_splits_blanks :
    ∃ parsed, read? "ab  c   d , e".toList = some parsed ∧ parsed.separator = "  ".toList ∧
      parsed.arguments = ["c".toList, " d , e".toList] ∧
      ∀ part ∈ parsed.command :: parsed.arguments, ¬parsed.separator <:+: part := by
  have found : read? "ab  c   d , e".toList =
      some ⟨"ab".toList, ["c".toList, " d , e".toList], "ab  c   d , e".toList, "  ".toList⟩ := by
    decide +kernel
  have splits := (read?_splits "ab  c   d , e".toList).2 _ found
  exact ⟨_, found, rfl, rfl, (splits.divided ⟨' ', by decide, by decide⟩).2⟩

end FrameScript.CommandLine
