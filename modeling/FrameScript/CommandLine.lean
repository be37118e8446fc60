import FrameScript.Text.Blank
import FrameScript.Text.Folded
import FrameScript.Text.Split

/-!
# Command lines

A line that is not an action may be a command with arguments.  The first separator on the line, a
run of blanks or a comma with the blanks after it, is taken literally for the whole line, so that
joining the parts with it gives the line back.
-/

namespace FrameScript

structure CommandLine where
  /-- The first part of the line. -/
  command : Text
  /-- The other parts, in order. -/
  arguments : List Text
  /-- The line as it was given. -/
  source : Text
  /-- The text between the parts, empty if the line has a single part. -/
  separator : Text
  deriving DecidableEq, Repr

namespace CommandLine

def isSeparating (char : Char) : Bool := Text.isBlank char || char == ','

/-- The first separator of a line. -/
def separatorOf (line : Text) : Text :=
  match line.dropWhile fun char => !isSeparating char with
  | [] => []
  | first :: rest => first :: rest.takeWhile Text.isBlank

/-- Splits a line into a command and its arguments, unless it is blank. -/
def read? (line : Text) : Option CommandLine :=
  if Text.isVacant line then none
  else
    match separatorOf line with
    | [] => some { command := line, arguments := [], source := line, separator := [] }
    | first :: rest =>
        let separator := first :: rest
        let parts := Text.divide separator line
        some { command := parts.headD [], arguments := parts.tail, source := line, separator }

/-- Whether a line runs the command with the given name, in any case. -/
def runs (line : CommandLine) (name : Option Text) : Bool :=
  match name with
  | some name => Text.equalFolded name line.command
  | none => false

end CommandLine

end FrameScript
