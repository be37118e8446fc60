import FrameScript.Cli.Run

/-!
# The program

Collects what a run depends on, runs it and carries out its report.
-/

namespace FrameScript.Cli

def readFile? (path : Path) : IO (Option Bytes) := do
  try
    return some (← IO.FS.readBinFile (String.ofList path)).toList
  catch _ => return none

/-- The names of the variables on which a run may depend: those of the settings in upper and in
lower case, and those to which the file of variables refers. -/
def variableNames (workspace : Workspace) : List Text :=
  let settings := Setting.all.flatMap fun setting =>
    [setting.variableName.map Char.toUpper, setting.variableName]
  match (workspace.read? variablesPath).map Text.Utf8.decode with
  | some (.ok text) => settings ++ (Variables.referencedNames text).filter fun name => name != []
  | _ => settings

def readEnvironment (names : List Text) : IO Variables :=
  names.eraseDups.filterMapM fun name => do
    return (← IO.getEnv (String.ofList name)).map fun value => (name, value.toList)

def pathsOf (arguments : List Text) : List Path :=
  match (Invocation.parse? arguments).bind Invocation.task? with
  | some (.check path) => [plainPath path, variablesPath].eraseDups
  | some (.format path _) => [plainPath path, variablesPath].eraseDups
  | _ => [variablesPath]

def readWorkspace (paths : List Path) : IO Workspace := do
  let files ← paths.filterMapM fun path => do
    return (← readFile? path).map fun content => (path, content)
  return ⟨files⟩

def Fault.lines : Fault → List String
  | .usage =>
      ["Usage: tas [-v] inspect LINE",
        "       tas [-v] line inspect LINE [--strict-floats]",
        "       tas [-v] script check PATH",
        "       tas [-v] script format PATH [--write]"]
  | .settings problems =>
      problems.map fun problem =>
        s!"Invalid setting {String.ofList problem.name}: {problem.defect.name}"
  | .overlong fault => [fault.message]
  | .markup _ => ["Broken markup"]

def Event.carryOut : Event → IO Unit
  | .logged diagnostic => IO.eprintln diagnostic.render
  | .shown entry => entry.plainLines.forM fun line => IO.println line
  | .printed text => IO.print (String.ofList text)
  | .written path content => IO.FS.writeBinFile (String.ofList path) content.toByteArray

def Report.carryOut (report : Report) : IO UInt32 := do
  report.events.forM Event.carryOut
  for line in (report.fault.map Fault.lines).getD [] do
    IO.eprintln line
  return report.exitCode.toUInt32

end FrameScript.Cli

open FrameScript FrameScript.Cli in
def main (arguments : List String) : IO UInt32 := do
  let texts := arguments.map String.toList
  let workspace ← readWorkspace (pathsOf texts)
  let environment ← readEnvironment (variableNames workspace)
  (execute .plain workspace environment texts).carryOut
