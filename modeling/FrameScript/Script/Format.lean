import FrameScript.Script.Basic

/-!
# Formatting scripts

Formatting puts every action line into its canonical text.  Other lines, and actions whose numbers
are invalid when that is not tolerated, stay as they are.
-/

namespace FrameScript.Script

def formatLine (tolerant : Bool) (line : Text) : Except OverlongCount Text := do
  match ← LineKind.of line with
  | .action =>
      match ← (ActionLine.read tolerant line).outcome with
      | some action => return action.toText
      | none => return line
  | _ => return line

def format (tolerant : Bool) (lines : List Text) : Progress Text :=
  .through (formatLine tolerant) lines

/-- The number of lines that formatting changed. -/
def changedCount (lines formatted : List Text) : Nat :=
  (lines.zip formatted).countP fun (before, after) => after != before

end FrameScript.Script
