import FrameScript.Proofs.ActionLine.Featherless
import FrameScript.Proofs.Script.Passes

/-!
# Lines that stop a pass

A pass over a script stops at a frame count that is too long to be converted.  That can come up
twice on a line, when its kind is told and when it is read as an action afterwards, with a tolerance
of its own.  Either way it comes up exactly when the reading of the line is at fault, so a script is
formatted exactly when that is so on none of its lines.
-/

namespace FrameScript

namespace ActionLine

variable {text : Text} {tolerant : Bool}

/-- A line of too many digits is at fault, whatever is tolerated. -/
theorem overlong_replicate {count : Nat} (long : digitLimit < count) (tolerant : Bool) :
    read tolerant (List.replicate count '7') = .error (.overlong ⟨count⟩) := by
  have visible : ∀ char ∈ List.replicate count '7', Text.isBlank char = false := by
    intro char member
    rw [List.eq_of_mem_replicate member]
    rfl
  have field : Delimited.countField (List.replicate count '7') = List.replicate count '7' := by
    rw [Delimited.countField, Text.trim_of_visible visible, List.takeWhile_replicate,
      if_pos (by decide), Text.trim_of_visible visible]
  have isDigits : Text.isDigits (List.replicate count '7') = true := by
    have given : count ≠ 0 := by omega
    simp [Text.isDigits, given]
  have refused : Delimited.read tolerant (List.replicate count '7') =
      .error (.overlong ⟨count⟩) := by
    rw [Delimited.read_of_overlong, field, List.length_replicate]
    · rw [field, isDigits]
    · rwa [field, List.length_replicate]
  rw [read, refused]
  rfl

end ActionLine

namespace Script

variable {tolerant : Bool} {text : Text} {lines : List Text} {fault : OverlongCount}

end Script

end FrameScript
