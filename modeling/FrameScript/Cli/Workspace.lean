import FrameScript.Text.Utf8

/-!
# Workspaces

The files that a run can see, by their paths.  Paths are compared and shown in a plain form: no
repeated or closing slash and no step to the directory itself.
-/

namespace FrameScript.Cli

/-- A path in its plain form. -/
abbrev Path := Text

def currentDirectory : Path := ['.']

/-- The slashes that an absolute path starts with.  Exactly two are kept apart from one. -/
def rootOf (text : Text) : Text :=
  match (text.takeWhile fun char => char == '/').length with
  | 0 => []
  | 2 => ['/', '/']
  | _ => ['/']

def plainPath (text : Text) : Path :=
  let steps := (text.splitOn '/').filter fun step => step != [] && step != currentDirectory
  let path := rootOf text ++ ['/'].intercalate steps
  if path.isEmpty then currentDirectory else path

structure Workspace where
  files : List (Path × Bytes)
  deriving DecidableEq, Repr

namespace Workspace

def read? (workspace : Workspace) (path : Path) : Option Bytes := workspace.files.lookup path

def write (workspace : Workspace) (path : Path) (content : Bytes) : Workspace :=
  ⟨workspace.files.map fun (name, bytes) => (name, if name = path then content else bytes)⟩

end Workspace

end FrameScript.Cli
