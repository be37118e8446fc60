import FrameScript.Proofs.Script.Passes
import FrameScript.Proofs.Text.LineEnds

/-!
# Comments of a script

A comment is left alone by formatting.  It still changes if it holds a character that divides a
script but not a text file, so that the comments of a file are kept exactly under a condition on its
characters.
-/

namespace FrameScript.Script

open Text (fileLines normalizeNewlines breaksLine)

variable {tolerant : Bool} {text line : Text} {lines results : List Text} {index : Nat}

theorem Progress.getElem?_through {α : Type} {work : Text → Except OverlongCount α}
    {results : List α} (finished : Progress.through work lines = ⟨results, none⟩)
    (here : lines[index]? = some line) :
    ∃ result, results[index]? = some result ∧ work line = .ok result := by
  have listed : (results.map Except.ok)[index]? = some (work line) := by
    rw [← through_eq_iff.1 finished, List.getElem?_map, here, Option.map_some]
  rw [List.getElem?_map, Option.map_eq_some_iff] at listed
  obtain ⟨result, found, done⟩ := listed
  exact ⟨result, found, done.symm⟩

theorem length_format (finished : format tolerant lines = ⟨results, none⟩) :
    results.length = lines.length := by
  have lengths := Progress.results_length (congrArg Progress.fault finished)
  rw [← format, finished] at lengths
  exact lengths

/-- A line whose first character that is not blank is the mark of comments. -/
def IsComment (line : Text) : Prop := (line.find? fun char => !Text.isBlank char) = some '#'

theorem kind_of_isComment (comment : IsComment line) : LineKind.of line = .ok .comment := by
  rw [IsComment, ← List.head?_filter, ← Text.compact] at comment
  rcases Text.trim_cases line with ⟨_, compacted⟩ | ⟨first, rest, _, trimmed, compacted⟩
  · rw [compacted] at comment
    cases comment
  · rw [compacted] at comment
    cases comment
    simp [LineKind.of, LineKind.marked?, trimmed, LineKind.commentMark, List.isPrefixOf]

/-- Formatting leaves a comment as it is. -/
theorem formatLine_of_isComment (comment : IsComment line) :
    formatLine tolerant line = .ok line :=
  formatLine_of_kind (kind_of_isComment comment) (by decide)

theorem getElem?_format_of_isComment (finished : format tolerant lines = ⟨results, none⟩)
    (here : lines[index]? = some line) (comment : IsComment line) :
    results[index]? = some line := by
  obtain ⟨after, found, done⟩ := Progress.getElem?_through finished here
  rw [formatLine_of_isComment comment] at done
  cases done
  exact found

/-- A blank at its end does not make a line a comment. -/
theorem isComment_of_concat {last : Char} (blank : Text.isBlank last = true)
    (comment : IsComment (line ++ [last])) : IsComment line := by
  rw [IsComment, List.find?_append, List.find?_singleton, blank] at comment
  simpa [IsComment] using comment

/-- A text file and what became of it have equally many lines and the same comments. -/
structure KeepsComments (before after : Text) : Prop where
  length : (fileLines after).length = (fileLines before).length
  comments : ∀ (index : Nat) (line : Text), (fileLines before)[index]? = some line →
    IsComment line → (fileLines after)[index]? = some line

/-- Nothing but newlines divides a text, and a comment at its end has no other end of a line. -/
structure Undivided (text : Text) : Prop where
  inside : ∀ char ∈ (normalizeNewlines text).dropLast, breaksLine char = false
  atEnd : ∀ last ∈ (normalizeNewlines text).getLast?, breaksLine last = true →
    ∀ line ∈ (fileLines text).getLast?, ¬IsComment line

/-- Every comment of an undivided file is a line of the script. -/
theorem Undivided.getElem?_lines (undivided : Undivided text)
    (here : (fileLines text)[index]? = some line) (comment : IsComment line) :
    (Text.lines (normalizeNewlines text))[index]? = some line := by
  rcases Text.lines_cases undivided.inside with
    ⟨same, _⟩ | ⟨before, start, last, atEnd, broken, short, long⟩
  · rw [same]
    exact here
  · have ended : (fileLines text).getLast? = some (start ++ [last]) := by
      rw [fileLines, long, List.getLast?_concat]
    have other := undivided.atEnd last atEnd broken _ ended
    rw [fileLines, long] at here
    rw [short]
    by_cases inside : index < before.length
    · rw [List.getElem?_append_left inside] at here ⊢
      exact here
    · rw [List.getElem?_append_right (by omega), List.getElem?_singleton] at here
      split at here
      · cases here
        exact absurd comment other
      · cases here

theorem Undivided.getElem?_format (undivided : Undivided text)
    (finished : format tolerant (Text.lines (normalizeNewlines text)) = ⟨results, none⟩)
    (here : (fileLines text)[index]? = some line) (comment : IsComment line) :
    results[index]? = some line :=
  getElem?_format_of_isComment finished (undivided.getElem?_lines here comment) comment

/-- A comment at the end of a script loses the character that ends it in the script only. -/
theorem getElem?_shown_ne {before : List Text} {last : Char} {shown : Text → Text}
    (part : ∀ line, (shown line).Sublist line)
    (finished : format tolerant (before ++ [line]) = ⟨results, none⟩)
    (broken : breaksLine last = true) (comment : IsComment (line ++ [last])) :
    (results.map shown)[before.length]? ≠ some (line ++ [last]) := by
  rw [breaksLine, Bool.and_eq_true] at broken
  have shorter := isComment_of_concat (Text.isBlank_of_endsLine broken.1) comment
  have found := getElem?_format_of_isComment finished
    (show (before ++ [line])[before.length]? = some line by simp) shorter
  intro same
  rw [List.getElem?_map, found, Option.map_some, Option.some.injEq] at same
  have fewer := (part line).length_le
  rw [same, List.length_append, List.length_singleton] at fewer
  omega

/-- What is shown of a formatted script keeps the comments of its file exactly when the file is
undivided and its comments are shown as they are. -/
theorem keepsComments_iff (shown : Text → Text) (part : ∀ line, (shown line).Sublist line)
    (finished : format tolerant (Text.lines (normalizeNewlines text)) = ⟨results, none⟩) :
    KeepsComments text (Text.ofLines (results.map shown)) ↔
      Undivided text ∧ ∀ line ∈ fileLines text, IsComment line → shown line = line := by
  have single := oneLine_format finished fun _ => Text.inside_of_mem_linesBy
  have output : fileLines (Text.ofLines (results.map shown)) = results.map shown :=
    Text.fileLines_ofLines (Text.oneLine_map part single)
  have lengths : (results.map shown).length = (Text.lines (normalizeNewlines text)).length := by
    rw [List.length_map, length_format finished]
  constructor
  · intro kept
    have inside : ∀ char ∈ (normalizeNewlines text).dropLast, breaksLine char = false := by
      rw [← Text.length_lines_eq_iff, ← lengths, ← output]
      exact kept.length
    have undivided : Undivided text := by
      refine ⟨inside, fun last atEnd broken line ended => ?_⟩
      rcases Text.lines_cases inside with
        ⟨_, whole⟩ | ⟨before, start, other, sameEnd, _, short, long⟩
      · cases (whole last atEnd).symm.trans broken
      · cases sameEnd.symm.trans atEnd
        rw [short] at finished
        rw [fileLines, long, List.getLast?_concat] at ended
        cases ended
        intro comment
        refine getElem?_shown_ne part finished broken comment ?_
        rw [← output]
        exact kept.comments _ _ (by rw [fileLines, long]; simp) comment
    refine ⟨undivided, fun line member comment => ?_⟩
    obtain ⟨index, here⟩ := List.getElem?_of_mem member
    have found := undivided.getElem?_format finished here comment
    have same := kept.comments index line here comment
    rw [output, List.getElem?_map, found] at same
    exact Option.some.inj same
  · rintro ⟨undivided, plain⟩
    refine ⟨?_, fun index line here comment => ?_⟩
    · rw [output, lengths]
      exact Text.length_lines_eq_iff.2 undivided.inside
    · have found := undivided.getElem?_format finished here comment
      rw [output, List.getElem?_map, found, Option.map_some,
        plain line (List.mem_of_getElem? here) comment]

end FrameScript.Script
