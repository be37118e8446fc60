import FrameScript.Cli.Workspace
import FrameScript.Console
import FrameScript.Diagnostic
import FrameScript.Settings

/-!
# Reports

What a run did, in the order in which it did it.  A run hands what it shows to the console and goes
on.  If an entry cannot be laid out there, the run ends at this place: what was done before stays
done, files that were written included, and nothing after it is done.
-/

namespace FrameScript.Cli

inductive Fault where
  | usage
  | settings (problems : List Problem)
  | overlong (fault : OverlongCount)
  | markup (entry : Entry)
  deriving DecidableEq, Repr

/-- Something that a run does.  An entry is laid out on the console, a text is printed as it is. -/
inductive Event where
  | logged (diagnostic : Diagnostic)
  | shown (entry : Entry)
  | printed (text : Text)
  | written (path : Path) (content : Bytes)
  deriving DecidableEq, Repr

namespace Event

def diagnostic? : Event → Option Diagnostic
  | .logged diagnostic => some diagnostic
  | _ => none

def entry? : Event → Option Entry
  | .shown entry => some entry
  | _ => none

def text : Event → Text
  | .printed text => text
  | _ => []

def apply (workspace : Workspace) : Event → Workspace
  | .written path content => workspace.write path content
  | _ => workspace

/-- Whether a run gets past an event.  Only an entry that cannot be laid out ends it. -/
def goesWell (styling : Styling) : Event → Bool
  | .shown entry => styling.lays entry
  | _ => true

end Event

/-- What a run did to the files that were there before, and how it ended. -/
structure Report where
  exitCode : Nat := 0
  before : Workspace
  events : List Event := []
  fault : Option Fault := none
  deriving DecidableEq, Repr

namespace Report

variable (report : Report)

def log : List Diagnostic := report.events.filterMap Event.diagnostic?

def console : List Entry := report.events.filterMap Event.entry?

def output : Text := report.events.flatMap Event.text

def workspace : Workspace := report.events.foldl Event.apply report.before

def withLog (logs : Bool) : Report :=
  { report with events := report.events.filter fun event => logs || event.diagnostic?.isNone }

/-- The report of a run whose entries are laid out.  The first one that cannot be ends the run. -/
def laidOut (styling : Styling) : Report :=
  match report.console.find? fun entry => !styling.lays entry with
  | none => report
  | some entry =>
      { report with
        exitCode := 1
        events := report.events.takeWhile (Event.goesWell styling)
        fault := some (.markup entry) }

end Report

section

variable (log : List Diagnostic) (entries : List Entry)

@[simp]
theorem filterMap_entry?_logged : (log.map Event.logged).filterMap Event.entry? = [] := by
  simp [List.filterMap_map, Function.comp_def, Event.entry?]

@[simp]
theorem flatMap_text_logged : (log.map Event.logged).flatMap Event.text = [] := by
  simp [List.flatMap_map, Event.text]

@[simp]
theorem foldl_apply_logged (workspace : Workspace) :
    (log.map Event.logged).foldl Event.apply workspace = workspace := by
  induction log with
  | nil => rfl
  | cons first rest ih => exact ih

@[simp]
theorem filterMap_entry?_shown : (entries.map Event.shown).filterMap Event.entry? = entries := by
  simp [List.filterMap_map, Function.comp_def, Event.entry?]

end

end FrameScript.Cli
