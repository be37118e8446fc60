import FrameScript.ActionLine.Reading
import FrameScript.Number.Range

/-!
# Reading lines without delimiters

A line whose delimiters are missing or misplaced is read character by character, blanks left out.
A mode says what the characters are taken for.  A mode either takes a character or hands it over,
and what is handed over is taken for a tag at once, so one pass over the characters is enough.
-/

namespace FrameScript.Lenient

open Number (Range)

inductive Mode where
  | frames
  | tag
  | only (restriction : Restriction)
  | keys
  | angle
  | magnitude
  deriving DecidableEq, Repr

/-- The state between two characters.  The numbers of the feather are collected as texts in the
line. -/
structure Scan where
  mode : Mode := .frames
  count : FrameCount := {}
  line : ActionLine := { frames := 0 }
  deriving DecidableEq, Repr

/-- What a mode does with a character: it takes it, or it leaves it to be read as a tag. -/
inductive Dispatch where
  | taken (scan : Scan)
  | handedOver (scan : Scan)
  deriving DecidableEq, Repr

def modeAfter : Tag → Mode
  | .only restriction => .only restriction
  | .keys => .keys
  | .feather => .angle
  | _ => .tag

/-- Reads a character in the place of a tag.  Delimiters and unknown characters are passed over. -/
def takeTag (scan : Scan) (char : Char) : Scan :=
  if char = ActionLine.delimiter then { scan with mode := .tag }
  else
    match Tag.ofChar? char with
    | some tag => { scan with mode := modeAfter tag, line := scan.line.hold tag }
    | none => { scan with mode := .tag }

def isNumberChar (char : Char) : Bool := char.isDigit || char == '.'

def extend (text : Option Text) (char : Char) : Option Text := some (text.getD [] ++ [char])

def dispatch (scan : Scan) (char : Char) : Except Refusal Dispatch :=
  match scan.mode with
  | .frames =>
      if char.isDigit then .ok (.taken { scan with count := scan.count.push char })
      else if char = ActionLine.delimiter then .ok (.taken scan)
      else if scan.count.digits = 0 then .error (.rejected .noFrameCount)
      else
        match scan.count.checked with
        | .error fault => .error (.overlong fault)
        | .ok frames =>
            .ok (.handedOver { scan with mode := .tag, line := { scan.line with frames } })
  | .tag => .ok (.taken (takeTag scan char))
  | .only restriction =>
      if char = ActionLine.delimiter then .ok (.taken { scan with mode := .tag })
      else
        match (Tag.ofChar? char).bind Tag.direction? with
        | some direction =>
            .ok (.taken { scan with line := scan.line.hold (.restricted restriction direction) })
        | none => .ok (.handedOver { scan with mode := .tag })
  | .keys =>
      if char = ActionLine.delimiter then .ok (.taken { scan with mode := .tag })
      else
        let keys := scan.line.keys.insert [keyOf char]
        .ok (.taken { scan with line := { scan.line with keys } })
  | .angle =>
      if char = ActionLine.delimiter then .ok (.taken { scan with mode := .magnitude })
      else if isNumberChar char then
        let angle := extend scan.line.angle char
        .ok (.taken { scan with line := { scan.line with angle } })
      else .ok (.handedOver { scan with mode := .tag })
  | .magnitude =>
      if char = ActionLine.delimiter then .ok (.taken { scan with mode := .tag })
      else if isNumberChar char then
        let magnitude := extend scan.line.magnitude char
        .ok (.taken { scan with line := { scan.line with magnitude } })
      else .ok (.handedOver { scan with mode := .tag })

def step (scan : Scan) (char : Char) : Except Refusal Scan :=
  (dispatch scan char).map fun
    | .taken next => next
    | .handedOver next => takeTag next char

def promote (line : ActionLine) : ActionLine :=
  if line.angle.isNone then { line with angle := line.magnitude, magnitude := none } else line

/-- A number limited to its range.  A text that is no number stays as it is when that is
tolerated. -/
def settle (tolerant : Bool) (range : Range) (reason : Text → Rejection) :
    Option Text → Except Refusal (Option Text)
  | none => .ok none
  | some text =>
      match range.clampValue? text with
      | some number => .ok (some number)
      | none => if tolerant then .ok (some text) else .error (.rejected (reason text))

def finish (tolerant : Bool) (scan : Scan) : Reading :=
  if scan.mode = .frames then .error (.rejected .noActions)
  else do
    let line := promote scan.line
    let angle ← settle tolerant Range.angle .invalidAngle line.angle
    let magnitude ← settle tolerant Range.magnitude .invalidMagnitude line.magnitude
    return { line with angle, magnitude }

def read (tolerant : Bool) (line : Text) : Reading :=
  (Text.compact line).foldlM step {} >>= finish tolerant

end FrameScript.Lenient
