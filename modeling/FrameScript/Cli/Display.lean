import FrameScript.CommandLine
import FrameScript.Console
import FrameScript.Line
import FrameScript.Script.Check

/-!
# Display

How lines and the findings of a check are shown on the console.
-/

namespace FrameScript.Cli

def orDash (text : String) : String := if text.isEmpty then "-" else text

def details (line : ActionLine) : Tag → String
  | .only restriction =>
      orDash (", ".intercalate ((line.held.restricted restriction).map Direction.name))
  | .keys => orDash (Markup.literal ([',', ' '].intercalate line.keys.keys))
  | .feather =>
      let angle := String.ofList (line.angle.getD ['-'])
      let magnitude := String.ofList (line.magnitude.getD ['-'])
      s!"angle {angle}, magnitude {magnitude}"
  | _ => ""

def tagRow (line : ActionLine) (tag : Tag) : List String :=
  [tag.letter.toString, Input.name tag, details line tag]

/-- An action line as a table of its tags, and its canonical text. -/
def actionEntries (line : ActionLine) : List Entry :=
  let frames := String.ofList (Text.ofInt line.frames)
  [.table s!"Action Line ({frames} frames)" ["Char", "Action", "Details"]
      (line.held.tags.map (tagRow line)),
    .markup s!"[bold]Canonical:[/bold] {Markup.quotation line.toText}"]

def expandedDetails (line : ActionLine) : Tag → Except Held.MissingOpener String
  | .only restriction =>
      (line.held.expand restriction).map fun directions =>
        orDash (", ".intercalate (directions.map Direction.name))
  | tag => .ok (details line tag)

/-- How an action line is shown, with every list of directions asked for by its tag. -/
def expandedEntries (line : ActionLine) : Except Held.MissingOpener (List Entry) := do
  let rows ← line.held.tags.mapM fun tag =>
    (expandedDetails line tag).map fun details => [tag.letter.toString, Input.name tag, details]
  let text ← line.expandedText
  let frames := String.ofList (Text.ofInt line.frames)
  return [.table s!"Action Line ({frames} frames)" ["Char", "Action", "Details"] rows,
    .markup s!"[bold]Canonical:[/bold] {Markup.quotation text}"]

def commandEntries (line : CommandLine) : List Entry :=
  [.table s!"Command: {Markup.literal line.command}" ["#", "Argument"]
      ((line.arguments.zipIdx 1).map fun (argument, number) =>
        [toString number, Markup.literal argument]),
    .markup s!"[bold]Separator:[/bold] {Markup.quotation line.separator}"]

/-- How a line is shown, and whether it could be read. -/
def lineEntries : Line → Bool × List Entry
  | .action (some line) => (true, actionEntries line)
  | .action none => (false, [.error "Invalid feather angle or magnitude"])
  | .command (some line) => (true, commandEntries line)
  | .command none => (false, [.error "Command line has no content"])
  | line => (true, [.info s!"{line.kind.name.capitalize} line"])

/-- How a finding on a line is shown. -/
def findingEntry (path : Text) (number : Nat) (finding : Script.Finding) : Entry :=
  let place := s!"{String.ofList path}:{number}"
  match finding with
  | .invalidNumber line =>
      .error s!"{place}: invalid feather angle or magnitude in {Markup.quotation line}"
  | .wideCount frames =>
      let count := String.ofList (Text.ofInt frames)
      .warning s!"{place}: frame count {count} exceeds {ActionLine.maxFrames}"
  | .notCanonical expected =>
      .warning s!"{place}: not canonical, expected {Markup.quotation expected}"

def findingEntries (path : Text) (found : List (List Script.Finding)) : List Entry :=
  (found.zipIdx 1).flatMap fun (findings, number) => findings.map (findingEntry path number)

end FrameScript.Cli
