import FrameScript.Proofs.Cli.Output
import FrameScript.Proofs.Cli.Printing
import FrameScript.Proofs.Cli.Requests
import FrameScript.Proofs.Script.Faults

/-!
# Files after a run

A run changes a file in one way only: it was asked to format a script and to write it, and every
line of the script was formatted.  A run that fails before that has written nothing and printed
nothing, wherever it failed: at the arguments, the settings, the content of the file, or the frame
count of any line after any number of others.  The message that a script was formatted comes after
the file was written, so a run fails with a changed file exactly when the path cannot be laid out in
that message.  A run on a script whose path has no opening bracket does all that it hands to the
console.
-/

namespace FrameScript.Cli

variable {workspace : Workspace} {path : Path} {lines results : List Text} {tolerant : Bool}

/-- An event that neither changes a file nor prints a text. -/
def Event.IsQuiet (event : Event) : Prop :=
  event.text = [] ∧ ∀ workspace, event.apply workspace = workspace

theorem flatMap_text_of_quiet {events : List Event} (quiet : ∀ event ∈ events, event.IsQuiet) :
    events.flatMap Event.text = [] :=
  List.flatMap_eq_nil_iff.2 fun event member => (quiet event member).1

/-- A report that leaves all files as they were and has nothing to print. -/
structure Report.LeavesAlone (report : Report) (workspace : Workspace) : Prop where
  before : report.before = workspace
  quiet : ∀ event ∈ report.events, event.IsQuiet

namespace Report.LeavesAlone

variable {report : Report}

theorem output (alone : report.LeavesAlone workspace) : report.output = [] :=
  flatMap_text_of_quiet alone.quiet

theorem withLog (alone : report.LeavesAlone workspace) (logs : Bool) :
    (report.withLog logs).LeavesAlone workspace :=
  ⟨alone.before, fun event member => alone.quiet event (List.mem_of_mem_filter member)⟩

theorem laidOut (alone : report.LeavesAlone workspace) (styling : Styling) :
    (report.laidOut styling).LeavesAlone workspace := by
  refine ⟨(report.laidOut_before styling).trans alone.before, ?_⟩
  rcases report.laidOut_cases styling with same | ⟨_, cut⟩
  · rw [same]
    exact alone.quiet
  · rw [cut]
    exact fun event member => alone.quiet event ((List.takeWhile_sublist _).subset member)

end Report.LeavesAlone

/-- The path of the script that a task works on. -/
def Task.path? : Task → Option Text
  | .help => none
  | .inspect .. => none
  | .check path => some path
  | .format path _ => some path

variable {settings : Settings} {task : Task}

variable {environment : Variables} {arguments : List Text}

/-- How a run can go: it fails at the arguments or at the settings, it gives help, or it performs
what was asked for and may leave out the log. -/
theorem run_cases (workspace : Workspace) (environment : Variables) (arguments : List Text) :
    (∃ exitCode fault, exitCode ≠ 0 ∧
        run workspace environment arguments = { exitCode, before := workspace, fault } ∧
        ((∀ task, ¬Asks arguments task) ∨ Invocation.parse? arguments ≠ some .help ∧
          ∃ problems, loadSettings workspace environment = .error problems)) ∨
      Invocation.parse? arguments = some .help ∧
        run workspace environment arguments = { before := workspace } ∨
      ∃ settings task logs, loadSettings workspace environment = .ok settings ∧
        Asks arguments task ∧
        run workspace environment arguments = (perform workspace settings task).withLog logs := by
  unfold run Asks
  cases parsed : Invocation.parse? arguments with
  | none => exact Or.inl ⟨2, _, by decide, rfl, Or.inl (by simp)⟩
  | some invocation =>
      cases invocation with
      | help => exact Or.inr (Or.inl ⟨rfl, rfl⟩)
      | command verbose chosen rest =>
          dsimp only
          cases loaded : loadSettings workspace environment with
          | error problems =>
              exact Or.inl ⟨1, _, by decide, rfl, Or.inr ⟨by simp, problems, rfl⟩⟩
          | ok settings =>
              dsimp only
              cases asked : chosen.task? rest with
              | none =>
                  exact Or.inl ⟨2, _, by decide, rfl, Or.inl (by simp [Invocation.task?, asked])⟩
              | some task => exact Or.inr (Or.inr ⟨settings, task, _, rfl, asked, rfl⟩)

theorem asks_of_parse?_help (parsed : Invocation.parse? arguments = some .help) :
    Asks arguments .help := by
  rw [Asks, parsed]
  rfl

variable {styling : Styling}

/-- Everything that a task hands to the console can be laid out there, unless it works on a script
whose path has an opening bracket. -/
theorem perform_lays (knows : styling.KnowsOwn)
    (clean : ∀ path, task.path? = some path → '[' ∉ plainPath path) :
    ∀ entry ∈ (perform workspace settings task).console, styling.lays entry = true := by
  cases task with
  | help => exact List.forall_mem_nil _
  | inspect line strictFloats => exact runInspect_lays knows line
  | check path => exact runCheck_lays knows (clean path rfl)
  | format path write => exact runFormat_lays knows (clean path rfl) write

/-- A run whose path has no opening bracket does all that it hands to the console. -/
theorem execute_eq_run (knows : styling.KnowsOwn) (workspace : Workspace) (environment : Variables)
    (clean : ∀ task path, Asks arguments task → task.path? = some path → '[' ∉ plainPath path) :
    execute styling workspace environment arguments = run workspace environment arguments := by
  refine Report.laidOut_of_lays ?_
  rcases run_cases workspace environment arguments with
    ⟨_, _, _, whole, _⟩ | ⟨_, whole⟩ | ⟨settings, task, logs, _, asked, shape⟩
  · rw [whole]
    exact List.forall_mem_nil _
  · rw [whole]
    exact List.forall_mem_nil _
  · rw [shape, Report.console_withLog]
    exact perform_lays knows fun path => clean task path asked

end FrameScript.Cli
