import FrameScript.Proofs.ActionLine.Fallback
import FrameScript.Proofs.ActionLine.WellFormed

/-!
# Readings with invalid numbers rejected

To reject invalid numbers is to reject lines: a reader that does not tolerate them gives the line
that it gives with them tolerated, or none, and a frame count that is too long is so in either case.
Without the feather there is no number, so that a line without it is read alike in either case.
-/

namespace FrameScript

namespace Reading

/-- How a reading with invalid numbers rejected stands to the one with them tolerated: it is at
fault exactly when that one is, it gives the same or is a rejection, and it gives the same line if
that has no feather. -/
structure Narrows (strict tolerant : Reading) : Prop where
  fault : ∀ fault, strict = .error (.overlong fault) ↔ tolerant = .error (.overlong fault)
  rejects : strict = tolerant ∨ ∃ reason, strict = .error (.rejected reason)
  featherless : ∀ line, tolerant = .ok line → line.held.contains (.tag .feather) = false →
    strict = .ok line

variable {strict tolerant : Reading}

theorem narrows_of_accepted {line : ActionLine} (found : tolerant = .ok line)
    (accepted : strict = .ok line ∨ ∃ reason, strict = .error (.rejected reason))
    (featherless : line.held.contains (.tag .feather) = false → strict = .ok line) :
    Narrows strict tolerant := by
  subst found
  refine ⟨fun fault => ?_, accepted, ?_⟩
  · rcases accepted with same | ⟨reason, rejected⟩
    · rw [same]
    · rw [rejected]
      constructor <;> intro other <;> cases other
  · intro other same
    cases same
    exact featherless

theorem narrows_of_refused {refusal : Refusal} (refused : tolerant = .error refusal)
    (same : strict = .error refusal) : Narrows strict tolerant := by
  subst refused same
  refine ⟨fun fault => Iff.rfl, Or.inl rfl, ?_⟩
  intro line found
  cases found

end Reading

namespace Delimited

open ActionLine (contains_hold_self)

variable {line : ActionLine} {input : Input} {text : Text}

/-- What is held stays held when a field is read as a tag. -/
theorem contains_takeTag (held : line.held.contains input = true) (field : Text) :
    (takeTag line field).line.held.contains input = true := by
  cases field with
  | nil => exact held
  | cons first list =>
      rw [takeTag]
      cases Tag.ofChar? first with
      | none => exact held
      | some tag =>
          simp only [holdTag_eq]
          exact (Held.contains_foldl_insert _ _ _).2 (Or.inl held)

theorem contains_step {tolerant : Bool} {scan next : Scan} {field : Text}
    (held : scan.line.held.contains input = true)
    (taken : step tolerant scan field = .ok next) : next.line.held.contains input = true := by
  rcases step_cases taken with tagged | ⟨angle, magnitude, numbered⟩
  · rw [tagged]
    exact contains_takeTag held field
  · rw [numbered]
    exact held

theorem contains_takeTag_of_opensFeather {field : Text} (opens : opensFeather field = true) :
    (takeTag line field).line.held.contains (.tag .feather) = true := by
  rw [takeTag_of_opensFeather line opens]
  exact contains_hold_self line .feather

/-- If the feather is not held in the end, then no field opens with it. -/
theorem featherless_of_foldlM {fields : List Text} {last : Scan}
    (scanned : fields.foldlM (step true) ⟨.tag, line⟩ = .ok last)
    (missing : last.line.held.contains (.tag .feather) = false) :
    ∀ field ∈ fields, opensFeather field = false := by
  induction fields generalizing line with
  | nil => exact fun field member => absurd member List.not_mem_nil
  | cons first rest ih =>
      have taken : step true ⟨.tag, line⟩ first = .ok (takeTag line first) := rfl
      rw [foldlM_cons_of_ok taken] at scanned
      cases opens : opensFeather first with
      | true =>
          have held := foldlM_preserves
            (fun scan : Scan => scan.line.held.contains (.tag .feather) = true)
            (fun field member scan next still taken => contains_step still taken)
            (contains_takeTag_of_opensFeather opens) scanned
          rw [missing] at held
          cases held
      | false =>
          rw [takeTag_of_featherless line opens] at scanned
          intro field member
          rcases List.mem_cons.1 member with rfl | later
          · exact opens
          · exact ih scanned field later

theorem read_of_unfeathered (found : read true text = .ok line)
    (missing : line.held.contains (.tag .feather) = false) : read false text = .ok line := by
  obtain ⟨count, _, ran⟩ := readFields_of_read found
  obtain ⟨expected, scanned⟩ := exists_scan_of_readFields ran
  rw [read_of_featherless (featherless_of_foldlM scanned missing), found]

/-- With invalid numbers rejected, reading field by field only rejects more. -/
theorem narrows_read (text : Text) : (read false text).Narrows (read true text) := by
  cases found : read true text with
  | ok line =>
      refine Reading.narrows_of_accepted rfl ?_ (read_of_unfeathered found)
      cases strict : read false text with
      | ok other =>
          rw [read_of_intolerant strict] at found
          exact Or.inl found
      | error refusal =>
          cases refusal with
          | rejected reason => exact Or.inr ⟨reason, rfl⟩
          | overlong fault =>
              rw [overlong_of_read strict true] at found
              cases found
  | error refusal =>
      refine Reading.narrows_of_refused rfl ?_
      cases refusal with
      | rejected reason => exact rejected_of_tolerant found false
      | overlong fault => exact overlong_of_read found false

end Delimited

namespace Lenient

variable {line : ActionLine} {text : Text}

/-- What is refused with invalid numbers tolerated is refused before any number is looked at. -/
theorem read_of_refused {refusal : Refusal} (refused : read true text = .error refusal) :
    read false text = .error refusal := by
  rw [read] at refused ⊢
  cases scanned : (Text.compact text).foldlM step {} with
  | error other =>
      rw [scanned] at refused
      exact refused
  | ok scan =>
      rw [scanned] at refused
      by_cases started : scan.mode = .frames
      · change finish true scan = .error refusal at refused
        change finish false scan = .error refusal
        rw [finish, if_pos started] at refused ⊢
        exact refused
      · obtain ⟨angle, magnitude, finished⟩ := finish_tolerated started
        change finish true scan = .error refusal at refused
        rw [finished] at refused
        cases refused

theorem read_cases_of_tolerant (found : read true text = .ok line) :
    read false text = .ok line ∨ ∃ reason, read false text = .error (.rejected reason) := by
  obtain ⟨scan, scanned, started, _, _⟩ := exists_scan_of_read found
  have ends : read false text = finish false scan := by
    rw [read, scanned]
    rfl
  rcases finish_cases started with ⟨other, finished⟩ | rejected
  · have strict := ends.trans finished
    rw [read_tolerant strict] at found
    cases found
    exact Or.inl strict
  · rw [ends]
    exact Or.inr rejected

theorem read_of_unfeathered (found : read true text = .ok line)
    (missing : line.held.contains (.tag .feather) = false) : read false text = .ok line := by
  refine (read_cases_of_tolerant found).resolve_right fun rejected => ?_
  rw [rejected_iff_not_numeric found] at rejected
  apply rejected
  obtain ⟨angle, magnitude⟩ :=
    (parsed_of_read found).1.missing_of_unfeathered (by simp [missing])
  rintro number (given | given)
  · rw [angle] at given
    cases given
  · rw [magnitude] at given
    cases given

/-- With invalid numbers rejected, reading character by character only rejects more. -/
theorem narrows_read (text : Text) : (read false text).Narrows (read true text) := by
  cases found : read true text with
  | ok line =>
      exact Reading.narrows_of_accepted rfl (read_cases_of_tolerant found)
        (read_of_unfeathered found)
  | error refusal => exact Reading.narrows_of_refused rfl (read_of_refused found)

end Lenient

namespace ActionLine

/-- Without a feather the two tolerances come to the same. -/
theorem read_of_unfeathered {text : Text}
    (missing : ∀ line, read true text = .ok line → line.held.contains (.tag .feather) = false) :
    read false text = read true text := by
  cases found : Delimited.read true text with
  | ok line =>
      have tolerated := read_of_delimited found
      rw [tolerated]
      exact read_of_delimited (Delimited.read_of_unfeathered found (missing line tolerated))
  | error refusal =>
      cases refusal with
      | overlong fault =>
          rw [read, read, found, Delimited.overlong_of_read found false]
          rfl
      | rejected reason =>
          have falls := read_of_rejected found
          rw [falls, read_of_rejected (Delimited.rejected_of_tolerant found false)]
          cases lenient : Lenient.read true text with
          | ok line =>
              exact Lenient.read_of_unfeathered lenient (missing line (falls.trans lenient))
          | error refusal => exact Lenient.read_of_refused lenient

/-- What is refused with invalid numbers tolerated is refused alike with them rejected. -/
theorem read_of_refused {text : Text} {refusal : Refusal}
    (refused : read true text = .error refusal) (tolerant : Bool) :
    read tolerant text = .error refusal := by
  cases tolerant with
  | true => exact refused
  | false =>
      rw [← refused]
      apply read_of_unfeathered
      intro line found
      cases refused.symm.trans found

/-- With invalid numbers rejected, each reader gives what it gives with them tolerated, or rejects
the line; it gives the same if the line has no feather.  So do the two readers in turn. -/
theorem narrows_of_readers (text : Text) :
    (Delimited.read false text).Narrows (Delimited.read true text) ∧
      (Lenient.read false text).Narrows (Lenient.read true text) ∧
      ((∀ line, read true text = .ok line → line.held.contains (.tag .feather) = false) →
        read false text = read true text) :=
  ⟨Delimited.narrows_read text, Lenient.narrows_read text, read_of_unfeathered⟩

/-- A key that is written like the feather is no feather. -/
theorem narrows_of_readers_key :
    read false "7RPf1.2.3".toList =
      .ok ⟨7, ⟨67108866⟩, none, none, .ofText "F1.23".toList⟩ := by
  have found : read true "7RPf1.2.3".toList =
      .ok ⟨7, ⟨67108866⟩, none, none, .ofText "F1.23".toList⟩ := by
    decide +kernel
  have missing : ∀ line, read true "7RPf1.2.3".toList = .ok line →
      line.held.contains (.tag .feather) = false := by
    intro line same
    cases found.symm.trans same
    decide
  exact ((narrows_of_readers "7RPf1.2.3".toList).2.2 missing).trans found

end ActionLine

end FrameScript
