import FrameScript.Script.Basic

/-!
# Checking scripts

A check finds the action lines that have an invalid number, a frame count wider than its column, or
a text other than the canonical one.
-/

namespace FrameScript.Script

inductive Finding where
  | invalidNumber (line : Text)
  | wideCount (frames : Int)
  | notCanonical (expected : Text)
  deriving DecidableEq, Repr

/-- An invalid number is an error; the other findings are warnings. -/
def Finding.isError : Finding → Bool
  | .invalidNumber _ => true
  | _ => false

/-- The findings on a line that was read as an action. -/
def findings (text : Text) (line : ActionLine) : List Finding :=
  (if ActionLine.maxFrames < line.frames then [.wideCount line.frames] else []) ++
    (if line.toText = text then [] else [.notCanonical line.toText])

def checkLine (line : Text) : Except OverlongCount (List Finding) := do
  match ← LineKind.of line with
  | .action =>
      match ← (ActionLine.read false line).outcome with
      | some action => return findings line action
      | none => return [.invalidNumber (Text.trim line)]
  | _ => return []

def check (lines : List Text) : Progress (List Finding) := .through checkLine lines

def errorCount (found : List Finding) : Nat := found.countP Finding.isError

def warningCount (found : List Finding) : Nat := found.countP fun finding => !finding.isError

end FrameScript.Script
