import FrameScript.ActionLine.Read
import FrameScript.CommandLine

/-!
# Lines of a script

A line is empty, a comment, a breakpoint, an action or a command.  Whatever can be read as an action
with invalid numbers tolerated is an action, also when it is later read without that tolerance.
-/

namespace FrameScript

inductive LineKind where
  | empty
  | comment
  | breakpoint
  | action
  | command
  deriving DecidableEq, Repr

namespace LineKind

def name : LineKind → String
  | .empty => "empty"
  | .comment => "comment"
  | .breakpoint => "breakpoint"
  | .action => "action"
  | .command => "command"

def commentMark : Text := ['#']

def breakpointMark : Text := ['*', '*', '*']

/-- The kind of a line that is told by its first characters. -/
def marked? (line : Text) : Option LineKind :=
  let trimmed := Text.trim line
  if trimmed.isEmpty then some .empty
  else if commentMark.isPrefixOf trimmed then some .comment
  else if breakpointMark.isPrefixOf trimmed then some .breakpoint
  else none

def of (line : Text) : Except OverlongCount LineKind :=
  match marked? line with
  | some kind => .ok kind
  | none => (ActionLine.read true line).outcome.map fun
      | some _ => .action
      | none => .command

end LineKind

inductive Line where
  | empty
  | comment
  | breakpoint
  | action (line : Option ActionLine)
  | command (line : Option CommandLine)
  deriving DecidableEq, Repr

namespace Line

def kind : Line → LineKind
  | .empty => .empty
  | .comment => .comment
  | .breakpoint => .breakpoint
  | .action _ => .action
  | .command _ => .command

/-- Reads a line of any kind.  An action has no content when its numbers are invalid and that is not
tolerated. -/
def read (tolerant : Bool) (line : Text) : Except OverlongCount Line := do
  match ← LineKind.of line with
  | .empty => return .empty
  | .comment => return .comment
  | .breakpoint => return .breakpoint
  | .action => return .action (← (ActionLine.read tolerant line).outcome)
  | .command => return .command (CommandLine.read? line)

end Line

end FrameScript
