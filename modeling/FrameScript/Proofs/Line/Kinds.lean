import FrameScript.Line
import FrameScript.Proofs.ActionLine.Counted

/-!
# Kinds of lines

What has a frame count begins with a digit or a delimiter, so no mark of another kind hides it: a
line is an action exactly when it can be read as one with invalid numbers tolerated.
-/

namespace FrameScript

open ActionLine (delimiter)

namespace Reading

theorem outcome_eq_ok_iff {reading : Reading} {line : ActionLine} :
    reading.outcome = .ok (some line) ↔ reading = .ok line := by
  cases reading with
  | ok other => simp [outcome]
  | error refusal => cases refusal <;> simp [outcome]

theorem outcome_eq_none_iff {reading : Reading} :
    reading.outcome = .ok none ↔ ∃ reason, reading = .error (.rejected reason) := by
  cases reading with
  | ok other => simp [outcome]
  | error refusal => cases refusal <;> simp [outcome]

theorem outcome_eq_error_iff {reading : Reading} {fault : OverlongCount} :
    reading.outcome = .error fault ↔ reading = .error (.overlong fault) := by
  cases reading with
  | ok other => simp [outcome]
  | error refusal => cases refusal <;> simp [outcome]

end Reading

/-- A text whose first character that is not blank can begin an action. -/
def BeginsAction (text : Text) : Prop :=
  ∃ first rest, Text.trim text = first :: rest ∧ (first.isDigit = true ∨ first = delimiter)

/-- A text with a frame count begins with a digit of the count or with a delimiter. -/
theorem ActionLine.beginsAction_of_counted {text digits : Text}
    (found : countDigits? text = some digits) : BeginsAction text := by
  rcases Text.trim_cases text with ⟨trimmed, compacted⟩ | ⟨first, rest, visible, trimmed, compacted⟩
  · rcases countDigits?_cases found with ⟨rfl, isDigits⟩ | ⟨_, ended, _, _⟩
    · rw [Delimited.countField, trimmed] at isDigits
      cases isDigits
    · rw [Lenient.countPart, compacted] at ended
      exact absurd rfl ended
  · refine ⟨first, Text.trimEnd rest, trimmed, ?_⟩
    by_cases divides : first = delimiter
    · exact Or.inr divides
    rcases countDigits?_cases found with ⟨rfl, isDigits⟩ | ⟨_, _, rfl, given⟩
    · rw [Delimited.countField, trimmed, List.takeWhile_cons, if_pos (by simp [divides]),
        Text.trim_cons_visible visible, Text.isDigits_iff] at isDigits
      exact Or.inl (isDigits.2 first (by simp))
    · cases digit : first.isDigit with
      | true => exact Or.inl rfl
      | false =>
          have other : Lenient.isCountChar first = false := by
            simp [Lenient.isCountChar, digit, divides]
          rw [Lenient.countDigits, Lenient.countPart, compacted, List.takeWhile_cons,
            if_neg (by simp [other])] at given
          exact absurd rfl given

namespace LineKind

/-- The marks of other kinds stand neither before a digit nor before a delimiter. -/
theorem marked?_of_beginsAction {text : Text} (begins : BeginsAction text) :
    marked? text = none := by
  obtain ⟨first, rest, shape, allowed⟩ := begins
  have notComment : ('#' == first) = false := by
    rw [beq_eq_false_iff_ne]
    rintro rfl
    exact absurd allowed (by decide)
  have notBreakpoint : ('*' == first) = false := by
    rw [beq_eq_false_iff_ne]
    rintro rfl
    exact absurd allowed (by decide)
  simp [marked?, shape, commentMark, breakpointMark, List.isPrefixOf, notComment, notBreakpoint]

theorem marked?_of_counted {text digits : Text}
    (found : ActionLine.countDigits? text = some digits) : marked? text = none :=
  marked?_of_beginsAction (ActionLine.beginsAction_of_counted found)

theorem marked?_ne_action (text : Text) : marked? text ≠ some .action := by
  rw [marked?]
  intro marked
  repeat' split at marked
  all_goals cases marked

/-- The kind of a line whose tolerant reading is not a rejection follows that reading. -/
theorem of_eq_of_read {text : Text}
    (read : ∀ reason, ActionLine.read true text ≠ .error (.rejected reason)) :
    LineKind.of text = (ActionLine.read true text).outcome.map fun _ => .action := by
  obtain ⟨digits, found⟩ := ActionLine.countDigits?_isSome read
  simp only [LineKind.of, marked?_of_counted found]
  cases done : ActionLine.read true text with
  | ok line => rfl
  | error refusal =>
      cases refusal with
      | rejected reason => exact absurd done (read reason)
      | overlong fault => rfl

/-- The kind of a line whose tolerant reading is a rejection is told by a mark, or it is a
command. -/
theorem of_eq_of_rejected {text : Text} {reason : Rejection}
    (rejected : ActionLine.read true text = .error (.rejected reason)) :
    LineKind.of text = .ok ((marked? text).getD .command) := by
  cases marked : marked? text with
  | some kind => simp only [LineKind.of, marked, Option.getD_some]
  | none =>
      simp only [LineKind.of, marked, rejected]
      rfl

/-- A line is an action exactly when it can be read as one with invalid numbers tolerated. -/
theorem of_eq_action_iff {text : Text} :
    LineKind.of text = .ok .action ↔ ∃ line, ActionLine.read true text = .ok line := by
  cases done : ActionLine.read true text with
  | ok line =>
      rw [of_eq_of_read (by simp [done]), done]
      exact ⟨fun _ => ⟨line, rfl⟩, fun _ => rfl⟩
  | error refusal =>
      refine ⟨fun action => ?_, fun ⟨line, found⟩ => (by cases found)⟩
      cases refusal with
      | rejected reason =>
          rw [of_eq_of_rejected done, Except.ok.injEq] at action
          cases marked : marked? text with
          | some kind =>
              rw [marked, Option.getD_some] at action
              exact absurd (marked.trans (congrArg some action)) (marked?_ne_action text)
          | none =>
              rw [marked] at action
              cases action
      | overlong fault =>
          rw [of_eq_of_read (by simp [done]), done] at action
          cases action

/-- The kind of a line is at fault exactly when its tolerant reading is. -/
theorem of_eq_error_iff {text : Text} {fault : OverlongCount} :
    LineKind.of text = .error fault ↔
      ActionLine.read true text = .error (.overlong fault) := by
  cases done : ActionLine.read true text with
  | ok line =>
      rw [of_eq_of_read (by simp [done]), done]
      exact ⟨fun failed => (by cases failed), fun failed => (by cases failed)⟩
  | error refusal =>
      cases refusal with
      | rejected reason =>
          rw [of_eq_of_rejected done]
          exact ⟨fun failed => (by cases failed), fun failed => (by cases failed)⟩
      | overlong other =>
          rw [of_eq_of_read (by simp [done]), done]
          exact ⟨fun failed => (by cases failed; rfl), fun failed => (by cases failed; rfl)⟩

end LineKind

/-- A tolerant reading gives a line exactly when the text has a frame count that can be converted,
and the frames are the value of the count.  It is at fault exactly when the count has too many
digits.  The kind of a line follows the reading, so no mark of another kind hides an action. -/
theorem ActionLine.frames_of_tolerant_read (text : Text) :
    (read true text).outcome.map (Option.map ActionLine.frames) =
        (match countDigits? text with
          | none => .ok none
          | some digits =>
              if digitLimit < digits.length then .error ⟨digits.length⟩
              else .ok (some (Number.digitsValue digits : Int))) ∧
      (LineKind.of text = .ok .action ↔ ∃ line, (read true text).outcome = .ok (some line)) ∧
      ∀ fault, LineKind.of text = .error fault ↔ (read true text).outcome = .error fault := by
  refine ⟨?_, ?_, fun fault => ?_⟩
  · cases found : countDigits? text with
    | none =>
        obtain ⟨reason, rejected⟩ := read_of_uncounted found
        rw [rejected]
        rfl
    | some digits =>
        dsimp only
        split
        · rename_i long
          rw [read_of_overlong found long]
          rfl
        · rename_i within
          obtain ⟨line, done, frames⟩ := exists_read_of_counted found (by omega)
          rw [done, ← frames]
          rfl
  · rw [LineKind.of_eq_action_iff]
    exact exists_congr fun line => Reading.outcome_eq_ok_iff.symm
  · rw [LineKind.of_eq_error_iff]
    exact Reading.outcome_eq_error_iff.symm

end FrameScript
