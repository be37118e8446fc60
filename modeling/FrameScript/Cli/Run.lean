import FrameScript.Cli.Arguments
import FrameScript.Cli.Display
import FrameScript.Cli.Report
import FrameScript.Script.Format
import FrameScript.Text.ControlSequence
import FrameScript.Variables.File

/-!
# Runs of the program

A run is a function of the files, the environment and the arguments.  The settings are loaded once
it is known which command is run, and before the arguments of that command are looked at.  A file is
written in one place only, after all of its lines have been formatted, and the message that says so
is shown after that.  `run` hands every entry to the console; `execute` is the run in which they are
laid out there.
-/

namespace FrameScript.Cli

def runInspect (workspace : Workspace) (tolerant : Bool) (line : Text) : Report :=
  let log := (Diagnostic.ofLine tolerant line).map Event.logged
  match Line.read tolerant line with
  | .error fault =>
      { exitCode := 1, before := workspace, events := log, fault := some (.overlong fault) }
  | .ok content =>
      let (readable, console) := lineEntries content
      { exitCode := if readable then 0 else 1
        before := workspace
        events := log ++ console.map .shown }

/-- The lines of a script file, or the message that there are none. -/
def openScript (workspace : Workspace) (path : Path) : Except Entry (List Text) :=
  match workspace.read? path with
  | none => .error (.error s!"Script not found: {String.ofList path}")
  | some bytes =>
      match Script.decode bytes with
      | .ok lines => .ok lines
      | .error problem =>
          let place := s!"{problem.flaw.description} at byte {problem.offset}"
          .error (.error s!"Script is not valid UTF-8: {String.ofList path} ({place})")

/-- What a check does line by line.  A line with a fault comes last and has no findings. -/
def checkEvents (path : Path) (seen : List Text) (found : List (List Script.Finding)) :
    List Event :=
  ((seen.zip (found ++ [[]])).zipIdx 1).flatMap fun ((line, findings), number) =>
    (Diagnostic.ofScriptLine false line).map .logged ++
      findings.map fun finding => .shown (findingEntry path number finding)

def runCheck (workspace : Workspace) (path : Path) : Report :=
  match openScript workspace path with
  | .error message => { exitCode := 1, before := workspace, events := [.shown message] }
  | .ok lines =>
      let progress := Script.check lines
      let events := checkEvents path (progress.seen lines) progress.results
      match progress.fault with
      | some fault =>
          { exitCode := 1, before := workspace, events, fault := some (.overlong fault) }
      | none =>
          let errors := Script.errorCount progress.results.flatten
          let warnings := Script.warningCount progress.results.flatten
          let events := events ++ [.logged (.checked lines.length path errors warnings)]
          let message := s!"{String.ofList path}: no errors ({warnings} warnings)"
          if errors = 0 then
            { before := workspace, events := events ++ [.shown (.success message)] }
          else { exitCode := 1, before := workspace, events }

def runFormat (workspace : Workspace) (tolerant : Bool) (path : Path) (write : Bool) : Report :=
  match openScript workspace path with
  | .error message => { exitCode := 1, before := workspace, events := [.shown message] }
  | .ok lines =>
      let progress := Script.format tolerant lines
      let log := (progress.seen lines).flatMap (Diagnostic.ofScriptLine tolerant)
      match progress.fault with
      | some fault =>
          { exitCode := 1
            before := workspace
            events := log.map .logged
            fault := some (.overlong fault) }
      | none =>
          if write then
            let changed := Script.changedCount lines progress.results
            let message := s!"Formatted {changed} line(s) in {String.ofList path}"
            { before := workspace
              events := log.map .logged ++
                [.written path (Script.encode progress.results), .shown (.success message)] }
          else
            let text := Text.withoutSequences (Text.ofLines progress.results)
            { before := workspace, events := log.map .logged ++ [.printed text] }

def perform (workspace : Workspace) (settings : Settings) : Task → Report
  | .help => { before := workspace }
  | .inspect line strictFloats =>
      runInspect workspace (settings.ignoreInvalidFloats && !strictFloats) line
  | .check path => runCheck workspace (plainPath path)
  | .format path write =>
      runFormat workspace settings.ignoreInvalidFloats (plainPath path) write

def variablesPath : Path := ".env".toList

def loadSettings (workspace : Workspace) (environment : Variables) :
    Except (List Problem) Settings :=
  match workspace.read? variablesPath with
  | none => Settings.load environment []
  | some bytes =>
      match Text.Utf8.decode bytes with
      | .ok text => Settings.load environment (.ofText environment text)
      | .error _ => .error [⟨variablesPath, .undecodable⟩]

def logs (settings : Settings) (verbose : Bool) : Bool :=
  verbose || settings.effectiveLevel == .debug

/-- A run of the program whose entries are handed to the console. -/
def run (workspace : Workspace) (environment : Variables) (arguments : List Text) : Report :=
  match Invocation.parse? arguments with
  | none => { exitCode := 2, before := workspace, fault := some .usage }
  | some .help => { before := workspace }
  | some (.command verbose command arguments) =>
      match loadSettings workspace environment with
      | .error problems =>
          { exitCode := 1, before := workspace, fault := some (.settings problems) }
      | .ok settings =>
          match command.task? arguments with
          | none => { exitCode := 2, before := workspace, fault := some .usage }
          | some task => (perform workspace settings task).withLog (logs settings verbose)

/-- A run of the program whose entries are laid out on the console. -/
def execute (styling : Styling) (workspace : Workspace) (environment : Variables)
    (arguments : List Text) : Report :=
  (run workspace environment arguments).laidOut styling

end FrameScript.Cli
