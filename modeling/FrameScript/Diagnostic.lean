import FrameScript.Line

/-!
# Diagnostics

The messages for those who want to see how lines are read.  They are computed from the results of
reading and have no influence on them.
-/

namespace FrameScript

inductive Diagnostic where
  | notDelimited (line : Text) (reason : Rejection)
  | readingLeniently (line : Text)
  | notLenient (line : Text) (reason : Rejection)
  | noCommand (line : Text)
  | checked (lines : Nat) (path : Text) (errors warnings : Nat)
  deriving DecidableEq, Repr

namespace Diagnostic

/-- The part of the program that a message comes from. -/
def origin : Diagnostic → String
  | .notDelimited .. => "src.tas.strict"
  | .readingLeniently _ => "src.tas.parser"
  | .notLenient .. => "src.tas.loose"
  | .noCommand _ => "src.tas.command_line"
  | .checked .. => "src.cli.commands.script"

def message : Diagnostic → String
  | .notDelimited line reason =>
      s!"Strict parse rejected {String.ofList (Text.quoted line)}: {reason.message}"
  | .readingLeniently line =>
      s!"Falling back to lenient parse for {String.ofList (Text.quoted line)}"
  | .notLenient line reason =>
      s!"Lenient parse rejected {String.ofList (Text.quoted line)}: {reason.message}"
  | .noCommand line =>
      s!"Command parse rejected {String.ofList (Text.quoted line)}: no content"
  | .checked lines path errors warnings =>
      s!"Checked {lines} lines in {String.ofList path}: {errors} errors, {warnings} warnings"

def render (diagnostic : Diagnostic) : String :=
  s!"DEBUG {diagnostic.origin}: {diagnostic.message}"

def ofDelimited (tolerant : Bool) (line : Text) : List Diagnostic :=
  ((Delimited.read tolerant line).rejection?.map (notDelimited line)).toList

def ofLenient (tolerant : Bool) (line : Text) : List Diagnostic :=
  ((Lenient.read tolerant line).rejection?.map (notLenient line)).toList

def ofAction (tolerant : Bool) (line : Text) : List Diagnostic :=
  match ofDelimited tolerant line with
  | [] => []
  | rejected => rejected ++ readingLeniently line :: ofLenient tolerant line

def ofKind (line : Text) : List Diagnostic :=
  match LineKind.marked? line with
  | some _ => []
  | none => ofAction true line

def ofCommand (line : Text) : List Diagnostic :=
  match CommandLine.read? line with
  | some _ => []
  | none => [noCommand line]

/-- The messages about reading a line of a script for its action. -/
def ofScriptLine (tolerant : Bool) (line : Text) : List Diagnostic :=
  ofKind line ++
    match LineKind.of line with
    | .ok .action => ofAction tolerant line
    | _ => []

def ofLine (tolerant : Bool) (line : Text) : List Diagnostic :=
  ofScriptLine tolerant line ++
    match LineKind.of line with
    | .ok .command => ofCommand line
    | _ => []

end Diagnostic

end FrameScript
