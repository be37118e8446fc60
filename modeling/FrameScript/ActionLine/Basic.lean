import FrameScript.Input.Held
import FrameScript.Input.KeySet

/-!
# Action lines

An action line of a script: for how many frames which inputs are held.  The numbers of the feather
are kept as texts, so that a number that was typed stays as it was typed.
-/

namespace FrameScript

/-- A frame count and the inputs held during those frames. -/
structure ActionLine where
  /-- How many frames the inputs are held for. -/
  frames : Int
  /-- The held inputs. -/
  held : Held := ∅
  /-- The angle of the feather, if one was given. -/
  angle : Option Text := none
  /-- The magnitude of the feather.  An empty text is a place that was left open. -/
  magnitude : Option Text := none
  /-- The pressed keys. -/
  keys : KeySet := ∅
  deriving DecidableEq, Repr

namespace ActionLine

def delimiter : Char := ','

def frameColumn : Nat := 4

/-- The largest frame count that fits the frame column. -/
def maxFrames : Int := 9999

def hold (line : ActionLine) (input : Input) : ActionLine :=
  { line with held := line.held.insert input }

end ActionLine

end FrameScript
