import FrameScript.ActionLine.Basic
import FrameScript.ActionLine.FrameCount
import FrameScript.Text.Quoted

/-!
# Readings

What comes of reading a line as an action line: the line, a rejection with its reason, or a frame
count that is too long to convert.
-/

namespace FrameScript

inductive Rejection where
  | invalidFrameCount (field : Text)
  | noFrameCount
  | noActions
  | invalidAngle (text : Text)
  | invalidMagnitude (text : Text)
  deriving DecidableEq, Repr

def Rejection.message : Rejection → String
  | .invalidFrameCount field => "invalid frame count " ++ String.ofList (Text.quoted field)
  | .noFrameCount => "no frame count"
  | .noActions => "no actions after frame count"
  | .invalidAngle text => "invalid angle " ++ String.ofList (Text.quoted text)
  | .invalidMagnitude text => "invalid magnitude " ++ String.ofList (Text.quoted text)

inductive Refusal where
  | rejected (reason : Rejection)
  | overlong (fault : OverlongCount)
  deriving DecidableEq, Repr

abbrev Reading := Except Refusal ActionLine

namespace Reading

/-- The line that was read, nothing if the text was rejected, or the fault. -/
def outcome : Reading → Except OverlongCount (Option ActionLine)
  | .ok line => .ok (some line)
  | .error (.rejected _) => .ok none
  | .error (.overlong fault) => .error fault

def rejection? : Reading → Option Rejection
  | .error (.rejected reason) => some reason
  | _ => none

/-- The reading with another one in its place if it is a rejection. -/
def orElse (first : Reading) (second : Unit → Reading) : Reading :=
  match first with
  | .error (.rejected _) => second ()
  | reading => reading

end Reading

end FrameScript
