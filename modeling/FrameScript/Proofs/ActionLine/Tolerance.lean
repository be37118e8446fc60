import FrameScript.Proofs.ActionLine.Rereading

/-!
# Tolerance

How the two ways of reading a line compare, with invalid numbers tolerated and with invalid numbers
rejected.  A delimited line with a frame count is never rejected for its numbers when these are
tolerated, and what is read leniently without tolerance is read with it.
-/

namespace FrameScript

open Number (Range)

namespace Delimited

theorem step_tolerant (scan : Scan) (field : Text) : ∃ next, step true scan field = .ok next := by
  obtain ⟨expected, line⟩ := scan
  unfold step
  cases expected with
  | tag => exact ⟨_, rfl⟩
  | angle =>
      dsimp only
      split
      · exact ⟨_, rfl⟩
      split
      · exact ⟨_, rfl⟩
      · exact ⟨_, rfl⟩
  | shiftedAngle =>
      dsimp only
      split
      · exact ⟨_, rfl⟩
      · exact ⟨_, rfl⟩
  | magnitude =>
      dsimp only
      split
      · exact ⟨_, rfl⟩
      split
      · exact ⟨_, rfl⟩
      · exact ⟨_, rfl⟩

theorem foldlM_tolerant (fields : List Text) (scan : Scan) :
    ∃ last, fields.foldlM (step true) scan = .ok last := by
  induction fields generalizing scan with
  | nil => exact ⟨scan, rfl⟩
  | cons first rest ih =>
      obtain ⟨next, taken⟩ := step_tolerant scan first
      rw [foldlM_cons_of_ok taken]
      exact ih next

theorem readFields_tolerant (frames : Nat) (fields : List Text) :
    ∃ line, readFields true frames fields = .ok line := by
  obtain ⟨last, scanned⟩ := foldlM_tolerant fields ⟨.tag, { frames }⟩
  refine ⟨last.line, ?_⟩
  rw [readFields, scanned]
  exact if_neg (by simp)

/-- How the frame count of a line is read does not depend on the tolerance, and neither does what
becomes of a line without one. -/
theorem read_split (text : Text) :
    (∃ fault, ∀ tolerant, read tolerant text = .error (.overlong fault)) ∨
      (∃ reason, ∀ tolerant, read tolerant text = .error (.rejected reason)) ∨
      ∃ frames, ∀ tolerant, read tolerant text =
        (readFields tolerant frames (fieldsOf text).tail).mapError .rejected := by
  cases counted : FrameCount.read? ((fieldsOf text).headD []) with
  | error fault =>
      refine Or.inl ⟨fault, fun tolerant => ?_⟩
      simp only [read, counted]
  | ok count =>
      cases count with
      | none =>
          refine Or.inr (Or.inl ⟨.invalidFrameCount ((fieldsOf text).headD []), fun tolerant => ?_⟩)
          simp only [read, counted]
      | some frames =>
          refine Or.inr (Or.inr ⟨frames, fun tolerant => ?_⟩)
          simp only [read, counted]

/-- What is rejected although invalid numbers are tolerated has no frame count. -/
theorem rejected_of_tolerant {text : Text} {reason : Rejection}
    (rejected : read true text = .error (.rejected reason)) (tolerant : Bool) :
    read tolerant text = .error (.rejected reason) := by
  rcases read_split text with ⟨fault, overlong⟩ | ⟨other, uncounted⟩ | ⟨frames, counted⟩
  · rw [overlong] at rejected
    cases rejected
  · rwa [uncounted, ← uncounted true]
  · obtain ⟨line, found⟩ := readFields_tolerant frames (fieldsOf text).tail
    rw [counted, found] at rejected
    cases rejected

/-- A frame count that is too long is so whether invalid numbers are tolerated or not. -/
theorem overlong_of_read {text : Text} {tolerant : Bool} {fault : OverlongCount}
    (refused : read tolerant text = .error (.overlong fault)) (other : Bool) :
    read other text = .error (.overlong fault) := by
  rcases read_split text with ⟨found, overlong⟩ | ⟨reason, uncounted⟩ | ⟨frames, counted⟩
  · rwa [overlong, ← overlong tolerant]
  · rw [uncounted] at refused
    cases refused
  · rw [counted] at refused
    cases ran : readFields tolerant frames (fieldsOf text).tail with
    | error reason =>
        rw [ran] at refused
        cases refused
    | ok line =>
        rw [ran] at refused
        cases refused

/-- A field that is taken with invalid numbers rejected is taken alike with them tolerated. -/
theorem step_of_intolerant {scan next : Scan} {field : Text}
    (taken : step false scan field = .ok next) : step true scan field = .ok next := by
  obtain ⟨expected, line⟩ := scan
  cases expected with
  | tag => exact taken
  | angle =>
      simp only [step] at taken ⊢
      cases clamped : Range.angle.clampText? field with
      | some angle => simpa only [clamped] using taken
      | none =>
          simp only [clamped] at taken ⊢
          split at taken
          · rename_i vacant
            rwa [if_pos vacant]
          · cases taken
  | shiftedAngle =>
      simp only [step] at taken ⊢
      cases clamped : Range.angle.clampText? field with
      | some angle => simpa only [clamped] using taken
      | none =>
          simp only [clamped] at taken
          cases taken
  | magnitude =>
      simp only [step] at taken ⊢
      split at taken
      · rename_i vacant
        rwa [if_pos vacant]
      · rename_i given
        rw [if_neg given]
        cases clamped : Range.magnitude.clampText? field with
        | some magnitude => simpa only [clamped] using taken
        | none =>
            simp only [clamped] at taken
            cases taken

theorem foldlM_of_intolerant {fields : List Text} {scan last : Scan}
    (scanned : fields.foldlM (step false) scan = .ok last) :
    fields.foldlM (step true) scan = .ok last := by
  induction fields generalizing scan with
  | nil => exact scanned
  | cons first rest ih =>
      cases taken : step false scan first with
      | error reason =>
          rw [List.foldlM_cons, taken] at scanned
          cases scanned
      | ok next =>
          rw [foldlM_cons_of_ok taken] at scanned
          rw [foldlM_cons_of_ok (step_of_intolerant taken), ih scanned]

theorem readFields_of_intolerant {frames : Nat} {fields : List Text} {line : ActionLine}
    (ran : readFields false frames fields = .ok line) :
    readFields true frames fields = .ok line := by
  rw [readFields] at ran ⊢
  cases scanned : fields.foldlM (step false) ⟨.tag, { frames }⟩ with
  | error reason =>
      rw [scanned] at ran
      cases ran
  | ok last =>
      rw [scanned] at ran
      rw [foldlM_of_intolerant scanned]
      change finish false last = .ok line at ran
      change finish true last = .ok line
      rw [finish] at ran ⊢
      split at ran
      · cases ran
      · rw [if_neg (by simp)]
        exact ran

/-- What is read as a delimited line with invalid numbers rejected is read so with them
tolerated. -/
theorem read_of_intolerant {text : Text} {line : ActionLine} (found : read false text = .ok line) :
    read true text = .ok line := by
  rcases read_split text with ⟨fault, overlong⟩ | ⟨reason, uncounted⟩ | ⟨frames, counted⟩
  · rw [overlong] at found
    cases found
  · rw [uncounted] at found
    cases found
  · rw [counted] at found ⊢
    cases ran : readFields false frames (fieldsOf text).tail with
    | error reason =>
        rw [ran] at found
        cases found
    | ok other =>
        rw [ran] at found
        rw [readFields_of_intolerant ran]
        exact found

end Delimited

/-! ## Lines read leniently -/

namespace Lenient

theorem settle_tolerant {range : Range} {reason : Text → Rejection} {text result : Option Text}
    (settled : settle false range reason text = .ok result) :
    settle true range reason text = .ok result := by
  cases text with
  | none => exact settled
  | some number =>
      rw [settle] at settled ⊢
      cases found : range.clampValue? number with
      | none =>
          simp only [found] at settled
          cases settled
      | some limited => simpa only [found] using settled

theorem finish_of_settled {tolerant : Bool} {scan : Scan} {angle magnitude : Option Text}
    (started : scan.mode ≠ .frames)
    (angles : settle tolerant Range.angle .invalidAngle (promote scan.line).angle = .ok angle)
    (magnitudes : settle tolerant Range.magnitude .invalidMagnitude (promote scan.line).magnitude =
      .ok magnitude) :
    finish tolerant scan = .ok { scan.line with angle, magnitude } := by
  simp only [finish, if_neg started, angles, magnitudes]
  rw [promote_eq]
  rfl

/-- What is read leniently with invalid numbers rejected is read so with them tolerated. -/
theorem read_tolerant {text : Text} {line : ActionLine} (found : read false text = .ok line) :
    read true text = .ok line := by
  rw [read] at found ⊢
  cases scanned : (Text.compact text).foldlM step {} with
  | error refusal =>
      rw [scanned] at found
      cases found
  | ok scan =>
      rw [scanned] at found
      obtain ⟨started, angle, magnitude, angles, magnitudes, rfl⟩ := finish_ok found
      exact finish_of_settled started (settle_tolerant angles) (settle_tolerant magnitudes)

end Lenient

/-- If a text can be read with invalid numbers rejected, then what is read with them tolerated has
its numbers in range. -/
theorem ActionLine.inRange_of_read {text : Text} {line : ActionLine} {tolerant : Bool}
    (found : read tolerant text = .ok line) (valid : ∃ other, read false text = .ok other) :
    line.InRange := by
  obtain ⟨other, checked⟩ := valid
  cases tolerant with
  | false => exact (parsed_of_read found).2 rfl
  | true =>
      rcases read_cases found with delimited | ⟨⟨reason, rejected⟩, lenient⟩
      · exact (Delimited.parsed_of_read delimited).2
      · rw [read_of_rejected (Delimited.rejected_of_tolerant rejected false)] at checked
        rw [Lenient.read_tolerant checked] at lenient
        cases lenient
        exact (Lenient.parsed_of_read checked).2 rfl

namespace ActionLine

/-- A delimited line that is read leniently if invalid numbers are rejected, because it has one. -/
def FallsBack (text : Text) : Prop :=
  (∃ line, Delimited.read true text = .ok line) ∧
    ∃ reason, Delimited.read false text = .error (.rejected reason)

variable {text : Text} {line : ActionLine}

theorem FallsBack.read_eq (falls : FallsBack text) :
    read false text = Lenient.read false text ∧ read true text = Delimited.read true text := by
  obtain ⟨⟨line, delimited⟩, reason, rejected⟩ := falls
  exact ⟨read_of_rejected rejected, by rw [read_of_delimited delimited, delimited]⟩

/-- The two tolerances can only differ where the readers are switched. -/
theorem read_true_of_not_fallsBack (found : read false text = .ok line)
    (stays : ¬FallsBack text) : read true text = .ok line := by
  rcases read_cases found with delimited | ⟨⟨reason, rejected⟩, lenient⟩
  · exact read_of_delimited (Delimited.read_of_intolerant delimited)
  · cases tolerated : Delimited.read true text with
    | ok other => exact absurd ⟨⟨other, tolerated⟩, reason, rejected⟩ stays
    | error refusal =>
        cases refusal with
        | rejected other =>
            rw [read_of_rejected tolerated]
            exact Lenient.read_tolerant lenient
        | overlong fault =>
            rw [Delimited.overlong_of_read tolerated false] at rejected
            cases rejected

end ActionLine

end FrameScript
