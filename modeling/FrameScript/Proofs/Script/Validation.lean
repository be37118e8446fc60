import FrameScript.Proofs.ActionLine.Convergence
import FrameScript.Proofs.Script.Passes

/-!
# Validation and display

A check reads a line with invalid numbers rejected, formatting reads it with them tolerated.  The
two see the same action unless the line falls back: then the check sees what a lenient reading makes
of the line, and formatting what its fields are.  Neither the action nor the verdict of the check is
that of the fields in general.
-/

namespace FrameScript

namespace ActionLine

variable {source otherSource text : Text} {line other shown : ActionLine}

/-- The canonical texts of different lines that were read are different. -/
theorem Parsed.toText_injective (parsed : line.Parsed source)
    (otherParsed : other.Parsed otherSource) (same : other.toText = line.toText) :
    other = line := by
  have reread : Delimited.read true line.toText = .ok line.readBack :=
    Delimited.read_toText parsed (Or.inl rfl)
  rw [← same, Delimited.read_toText otherParsed (Or.inl rfl), Except.ok.injEq] at reread
  have frames := congrArg ActionLine.frames reread
  have held := congrArg ActionLine.held reread
  exact parsed.eq_of_toText otherParsed frames held same

/-- What can be read with invalid numbers rejected can be read with them tolerated. -/
theorem exists_tolerant_read (found : read false text = .ok line) :
    ∃ shown, read true text = .ok shown := by
  by_cases falls : FallsBack text
  · obtain ⟨⟨shown, delimited⟩, _⟩ := falls
    exact ⟨shown, read_of_delimited delimited⟩
  · exact ⟨line, read_true_of_not_fallsBack found falls⟩

/-- The two tolerances give the same line exactly when the two readers agree on a line that falls
back. -/
theorem shown_eq_iff (found : read false text = .ok line) (tolerated : read true text = .ok shown) :
    shown = line ↔
      (FallsBack text → Delimited.read true text = Lenient.read true text) := by
  by_cases falls : FallsBack text
  · rw [falls.read_eq.1] at found
    rw [falls.read_eq.2] at tolerated
    rw [tolerated, Lenient.read_tolerant found, Except.ok.injEq]
    exact ⟨fun same _ => same, fun same => same falls⟩
  · rw [read_true_of_not_fallsBack found falls] at tolerated
    cases tolerated
    exact ⟨fun _ here => absurd here falls, fun _ => rfl⟩

end ActionLine

namespace Script

open ActionLine (FallsBack Kept)

variable {text : Text} {line : ActionLine}

/-- What a check says about a line that it can read, and what formatting writes for it.  The two see
the same action exactly when the readers agree on the line if it falls back, which they do on a line
of plain fields around one feather. -/
theorem formatLine_of_validated (found : ActionLine.read false text = .ok line) :
    checkLine text = .ok (findings text line) ∧
      ∃ shown, ActionLine.read true text = .ok shown ∧
        formatLine true text = .ok shown.toText ∧
        (shown.toText = line.toText ↔ shown = line) ∧
        (shown = line ↔
          (FallsBack text → Delimited.read true text = Lenient.read true text)) ∧
        ∀ count before feather number after,
          Spelled text count before feather number after → shown = line := by
  obtain ⟨shown, tolerated⟩ := ActionLine.exists_tolerant_read found
  have action : LineKind.of text = .ok .action := LineKind.of_eq_action_iff.2 ⟨shown, tolerated⟩
  obtain ⟨⟨source, _, parsed⟩, _⟩ := ActionLine.parsed_of_read found
  obtain ⟨⟨shownSource, _, shownParsed⟩, _⟩ := ActionLine.parsed_of_read tolerated
  have agree := ActionLine.shown_eq_iff found tolerated
  refine ⟨checkLine_of_serializes ⟨action, found⟩, shown, tolerated,
    formatLine_of_serializes ⟨action, tolerated⟩, ?_, agree, ?_⟩
  · exact ⟨parsed.toText_injective shownParsed, fun same => congrArg ActionLine.toText same⟩
  · intro count before feather number after spelled
    exact agree.2 spelled.read_eq

/-- Two lines that fall back.  On the first the readers differ, because a field is read as one tag
and its characters are two; the second is the canonical text of a feather without a number. -/
theorem formatLine_of_validated_joined :
    (ActionLine.read false "1,F,RJ".toList = .ok ⟨1, ⟨530⟩, none, none, ∅⟩ ∧
      ∃ shown : ActionLine, formatLine true "1,F,RJ".toList = .ok shown.toText ∧
        shown ≠ ⟨1, ⟨530⟩, none, none, ∅⟩) ∧
    FallsBack "   1,R,F,".toList ∧
      ∃ line, ActionLine.read false "   1,R,F,".toList = .ok line ∧
        formatLine true "   1,R,F,".toList = .ok line.toText := by
  constructor
  · have found : ActionLine.read false "1,F,RJ".toList = .ok ⟨1, ⟨530⟩, none, none, ∅⟩ := by
      decide +kernel
    have displayed : ActionLine.read true "1,F,RJ".toList = .ok ⟨1, ⟨514⟩, none, none, ∅⟩ := by
      decide +kernel
    obtain ⟨_, shown, tolerated, written, _⟩ := formatLine_of_validated found
    rw [displayed] at tolerated
    cases tolerated
    exact ⟨found, _, written, by decide⟩
  · have found : ActionLine.read false "   1,R,F,".toList = .ok ⟨1, ⟨514⟩, none, none, ∅⟩ := by
      decide +kernel
    have delimited : Delimited.read true "   1,R,F,".toList = .ok ⟨1, ⟨514⟩, none, none, ∅⟩ := by
      decide +kernel
    have rejected : Delimited.read false "   1,R,F,".toList =
        .error (.rejected (.invalidAngle [])) := by
      decide +kernel
    have right : Plain ['R'] := by
      refine .single 'R' (by decide) (by decide) (by decide) fun tag writes => ?_
      have found : Tag.ofChar? 'R' = some (.direction .right) := by decide
      cases found.symm.trans writes
      rfl
    have spelled : Spelled "   1,R,F,".toList ['1'] [['R']] 'F' none [[]] :=
      { fields := by decide +kernel
        writes := by decide
        plain := by simpa using ⟨right, Plain.vacant⟩
        once := by decide
        digits := by simp
        limited := by simp
        given := fun none => absurd rfl none
        pointless := by simp }
    obtain ⟨_, shown, _, written, _, _, agree⟩ := formatLine_of_validated found
    rw [agree _ _ _ _ _ spelled] at written
    exact ⟨⟨⟨_, delimited⟩, _, rejected⟩, _, found, written⟩

theorem invalidNumber_notMem_findings (text : Text) (line : ActionLine) (other : Text) :
    .invalidNumber other ∉ findings text line := by
  rw [findings, List.mem_append]
  rintro (wide | different)
  · split at wide <;> simp at wide
  · split at different <;> simp at different

/-- A check rejects an action exactly when it cannot be read with invalid numbers rejected. -/
theorem checkLine_eq_invalidNumber_iff (action : LineKind.of text = .ok .action) :
    checkLine text = .ok [.invalidNumber (Text.trim text)] ↔
      (ActionLine.read false text).outcome = .ok none := by
  rw [checkLine, action]
  cases done : (ActionLine.read false text).outcome with
  | error fault =>
      constructor
      · intro failed
        cases failed
      · intro failed
        cases failed
  | ok content =>
      cases content with
      | none => exact ⟨fun _ => rfl, fun _ => rfl⟩
      | some line =>
          constructor
          · intro listed
            have same : findings text line = [.invalidNumber (Text.trim text)] :=
              Except.ok.inj listed
            exact absurd (by simp [same]) (invalidNumber_notMem_findings text line (Text.trim text))
          · intro failed
            cases failed

/-- What a check says about a line whose fields have an invalid number: it is an error exactly when
a lenient reading finds what is no number in the place of one. -/
theorem checkLine_of_fallsBack (falls : FallsBack text) :
    (checkLine text = .ok [.invalidNumber (Text.trim text)] ↔
        (ActionLine.read false text).outcome = .ok none) ∧
      ((ActionLine.read false text).outcome = .ok none ↔
        ∃ loose, Lenient.read true text = .ok loose ∧ ¬loose.Numeric) ∧
      (text.countP isFeather = 1 →
        ((ActionLine.read false text).outcome = .ok none ↔
          (Lenient.countDigits text).length ≤ digitLimit ∧
            (Kept (Lenient.angleRun (Lenient.behindFeather text)) ∨
              Kept (Lenient.magnitudeRun (Lenient.behindFeather text)))) ∧
        ∀ before feather token after, isFeather feather = true →
          (Delimited.fieldsOf text).tail = before ++ [feather] :: token :: after →
            ((ActionLine.read false text).outcome = .ok none ↔
              (Lenient.countDigits text).length ≤ digitLimit ∧
                Kept ((Text.compact token).takeWhile Lenient.isNumberChar))) := by
  obtain ⟨line, tolerated⟩ := falls.1
  have action : LineKind.of text = .ok .action :=
    LineKind.of_eq_action_iff.2 ⟨line, ActionLine.read_of_delimited tolerated⟩
  refine ⟨checkLine_eq_invalidNumber_iff action, ?_, fun once => ⟨?_, ?_⟩⟩
  · rw [Reading.outcome_eq_none_iff, falls.rejected_iff]
  · rw [Reading.outcome_eq_none_iff, falls.rejected_iff_kept once]
  · intro before feather token after writes fields
    rw [Reading.outcome_eq_none_iff, falls.rejected_iff_kept_field once writes fields]

/-- A line that is rejected for its magnitude, which a lenient reading passes over. -/
theorem checkLine_of_fallsBack_magnitude :
    Delimited.read false "1,F,45,1.2.3".toList =
        .error (.rejected (.invalidMagnitude "1.2.3".toList)) ∧
      checkLine "1,F,45,1.2.3".toList ≠
        .ok [.invalidNumber (Text.trim "1,F,45,1.2.3".toList)] := by
  have rejected : Delimited.read false "1,F,45,1.2.3".toList =
      .error (.rejected (.invalidMagnitude "1.2.3".toList)) := by
    decide +kernel
  have tolerated : Delimited.read true "1,F,45,1.2.3".toList =
      .ok ⟨1, ⟨512⟩, some "45".toList, none, ∅⟩ := by
    decide +kernel
  obtain ⟨reported, _, single⟩ := checkLine_of_fallsBack ⟨⟨_, tolerated⟩, _, rejected⟩
  have fields : (Delimited.fieldsOf "1,F,45,1.2.3".toList).tail =
      [] ++ ['F'] :: "45".toList :: ["1.2.3".toList] := by
    decide +kernel
  refine ⟨rejected, fun listed => ?_⟩
  obtain ⟨_, kept⟩ := ((single (by decide +kernel)).2 _ _ _ _ (by decide) fields).1
    (reported.1 listed)
  exact absurd kept.2.1 (by decide +kernel)

end Script

end FrameScript
