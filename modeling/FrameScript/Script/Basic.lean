import FrameScript.Line
import FrameScript.Text.Lines
import FrameScript.Text.Utf8

/-!
# Scripts

A script is a list of lines.  It is stored as UTF-8, its lines are worked on one after the other,
and work stops at a line whose frame count cannot be converted.
-/

namespace FrameScript.Script

def decode (bytes : Bytes) : Except Text.Utf8.Malformed (List Text) :=
  (Text.Utf8.decode bytes).map fun text => Text.lines (Text.normalizeNewlines text)

def encode (lines : List Text) : Bytes := Text.Utf8.encode (Text.ofLines lines)

/-- Results for the first lines of a script, and the fault of the next line if there was one. -/
structure Progress (α : Type) where
  results : List α
  fault : Option OverlongCount
  deriving DecidableEq, Repr

/-- Works on lines in order until there is a fault. -/
def Progress.through {α : Type} (work : Text → Except OverlongCount α) : List Text → Progress α
  | [] => ⟨[], none⟩
  | line :: rest =>
      match work line with
      | .error fault => ⟨[], some fault⟩
      | .ok result =>
          let later := through work rest
          ⟨result :: later.results, later.fault⟩

/-- The lines that were looked at, the one with the fault included. -/
def Progress.seen {α : Type} (progress : Progress α) (lines : List Text) : List Text :=
  lines.take (progress.results.length + 1)

theorem Progress.results_length {α : Type} {work : Text → Except OverlongCount α}
    {lines : List Text} (finished : (Progress.through work lines).fault = none) :
    (Progress.through work lines).results.length = lines.length := by
  induction lines with
  | nil => rfl
  | cons line rest ih =>
      rw [Progress.through] at finished ⊢
      cases done : work line with
      | error fault => simp [done] at finished
      | ok result =>
          simp only [done] at finished
          simp [ih finished]

end FrameScript.Script
