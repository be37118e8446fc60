import FrameScript.ActionLine.Canonical
import FrameScript.ActionLine.Delimited
import FrameScript.ActionLine.Lenient

/-!
# Reading action lines

A line is read as a delimited one first, and leniently if it is rejected as such.
-/

namespace FrameScript.ActionLine

/-- Reads a line.  Invalid numbers of the feather are tolerated or rejected. -/
def read (tolerant : Bool) (line : Text) : Reading :=
  (Delimited.read tolerant line).orElse fun _ => Lenient.read tolerant line

end FrameScript.ActionLine
