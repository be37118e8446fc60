import FrameScript.ActionLine.Reading
import FrameScript.Number.Range

/-!
# Reading delimited lines

A line in the shape of the canonical text: fields between delimiters, the frame count first, then
one tag in each field.  The fields are read from left to right.  After the tag of the feather a
number is expected, then a magnitude; an empty field in front of a lone number is passed over, and
the number is the angle.  A field that is not the expected number is read as a tag when invalid
numbers are tolerated, and is a reason to reject the line otherwise.
-/

namespace FrameScript.Delimited

open Number (Range)

def fieldsOf (line : Text) : List Text :=
  ((Text.trim line).splitOn ActionLine.delimiter).map Text.trim

/-- What the next field may be. -/
inductive Expected where
  | tag
  | angle
  | shiftedAngle
  | magnitude
  deriving DecidableEq, Repr

/-- The state between two fields: what is expected and what has been read. -/
structure Scan where
  expected : Expected
  line : ActionLine
  deriving DecidableEq, Repr

def holdRestricted (restriction : Restriction) (line : ActionLine) (char : Char) : ActionLine :=
  match (Tag.ofChar? char).bind Tag.direction? with
  | some direction => line.hold (.restricted restriction direction)
  | none => line

/-- Holds a tag together with the list of characters behind it.  A list of keys takes the place of
an earlier one. -/
def holdTag (line : ActionLine) (tag : Tag) (list : Text) : ActionLine :=
  match tag with
  | .only restriction => list.foldl (holdRestricted restriction) (line.hold tag)
  | .keys => { line.hold tag with keys := .ofList (list.map fun char => [keyOf char]) }
  | _ => line.hold tag

def expectedAfter : Tag → Expected
  | .feather => .angle
  | _ => .tag

/-- Reads a field in the place of a tag.  An empty field and an unknown character are passed
over. -/
def takeTag (line : ActionLine) : Text → Scan
  | [] => ⟨.tag, line⟩
  | first :: list =>
      match Tag.ofChar? first with
      | some tag => ⟨expectedAfter tag, holdTag line tag list⟩
      | none => ⟨.tag, line⟩

/-- Reads a field in the place of a tag if that is tolerated. -/
def retake (tolerant : Bool) (line : ActionLine) (field : Text) (reason : Rejection) :
    Except Rejection Scan :=
  if tolerant then .ok (takeTag line field) else .error reason

def step (tolerant : Bool) (scan : Scan) (field : Text) : Except Rejection Scan :=
  match scan.expected with
  | .tag => .ok (takeTag scan.line field)
  | .angle =>
      match Range.angle.clampText? field with
      | some angle => .ok ⟨.magnitude, { scan.line with angle := some angle }⟩
      | none =>
          if field.isEmpty then .ok ⟨.shiftedAngle, scan.line⟩
          else retake tolerant scan.line field (.invalidAngle field)
  | .shiftedAngle =>
      match Range.angle.clampText? field with
      | some angle => .ok ⟨.tag, { scan.line with angle := some angle }⟩
      | none => retake tolerant scan.line field (.invalidAngle [])
  | .magnitude =>
      if field.isEmpty then .ok ⟨.tag, { scan.line with magnitude := some [] }⟩
      else
        match Range.magnitude.clampText? field with
        | some magnitude => .ok ⟨.tag, { scan.line with magnitude := some magnitude }⟩
        | none => retake tolerant scan.line field (.invalidMagnitude field)

/-- The line at the end of the fields.  An empty field in the place of the angle that no number
follows is an invalid angle. -/
def finish (tolerant : Bool) (scan : Scan) : Except Rejection ActionLine :=
  if scan.expected = .shiftedAngle ∧ tolerant = false then .error (.invalidAngle [])
  else .ok scan.line

def readFields (tolerant : Bool) (frames : Nat) (fields : List Text) :
    Except Rejection ActionLine :=
  fields.foldlM (step tolerant) ⟨.tag, { frames }⟩ >>= finish tolerant

def read (tolerant : Bool) (line : Text) : Reading :=
  let fields := fieldsOf line
  let first := fields.headD []
  match FrameCount.read? first with
  | .error fault => .error (.overlong fault)
  | .ok none => .error (.rejected (.invalidFrameCount first))
  | .ok (some frames) => (readFields tolerant frames fields.tail).mapError .rejected

end FrameScript.Delimited
