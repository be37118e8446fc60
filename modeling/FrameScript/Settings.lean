import FrameScript.Variables.Basic

/-!
# Settings

The program is set up by variables, taken from the environment and from a file.  A variable of the
environment has precedence over the same variable of the file, names are compared in lower case, and
a file may hold no name that is not a setting.
-/

namespace FrameScript

/-- How important a message has to be to be logged. -/
inductive LogLevel where
  | debug
  | info
  | warning
  | error
  | critical
  deriving DecidableEq, Repr

namespace LogLevel

def all : List LogLevel := [.debug, .info, .warning, .error, .critical]

def name : LogLevel → Text
  | .debug => "DEBUG".toList
  | .info => "INFO".toList
  | .warning => "WARNING".toList
  | .error => "ERROR".toList
  | .critical => "CRITICAL".toList

def severity : LogLevel → Nat
  | .debug => 10
  | .info => 20
  | .warning => 30
  | .error => 40
  | .critical => 50

def ofName? (text : Text) : Option LogLevel := all.find? fun level => level.name == text

end LogLevel

structure Settings where
  /-- Whether invalid numbers of the feather are tolerated. -/
  ignoreInvalidFloats : Bool := true
  /-- Whether everything is logged. -/
  debug : Bool := false
  /-- The level of logging otherwise. -/
  logLevel : LogLevel := .warning
  deriving DecidableEq, Repr

/-- The level of logging that is in force. -/
def Settings.effectiveLevel (settings : Settings) : LogLevel :=
  if settings.debug then .debug else settings.logLevel

/-! ## Loading -/

inductive Setting where
  | ignoreInvalidFloats
  | debug
  | logLevel
  deriving DecidableEq, Repr

namespace Setting

def all : List Setting := [.ignoreInvalidFloats, .debug, .logLevel]

def name : Setting → Text
  | .ignoreInvalidFloats => "ignore_invalid_floats".toList
  | .debug => "debug".toList
  | .logLevel => "log_level".toList

def variableName (setting : Setting) : Text := "tas_".toList ++ setting.name

/-- Whether a name in lower case is, with or without its beginning, that of a setting. -/
def isKnown (name : Text) : Bool :=
  all.any fun setting => setting.variableName == name || setting.name == name

end Setting

inductive Defect where
  | notBoolean
  | notLevel
  | unknown
  | undecodable
  deriving DecidableEq, Repr

def Defect.name : Defect → String
  | .notBoolean => "bool_parsing"
  | .notLevel => "literal_error"
  | .unknown => "extra_forbidden"
  | .undecodable => "undecodable"

structure Problem where
  name : Text
  defect : Defect
  deriving DecidableEq, Repr

def Problem.sort (problems : List Problem) : List Problem :=
  problems.mergeSort fun first second => !decide (second.name < first.name)

namespace Settings

def falseWords : List Text := ["0", "off", "f", "false", "n", "no"].map String.toList

def trueWords : List Text := ["1", "on", "t", "true", "y", "yes"].map String.toList

def switch? (text : Text) : Option Bool :=
  let word := text.map Char.toLower
  if trueWords.contains word then some true
  else if falseWords.contains word then some false
  else none

/-- The value of a setting: its default if it has no text, a problem if the text has no value. -/
def interpret {α : Type} (setting : Setting) (defect : Defect) (value? : Text → Option α)
    (default : α) : Option Text → Except Problem α
  | none => .ok default
  | some text =>
      match value? text with
      | some value => .ok value
      | none => .error ⟨setting.name, defect⟩

def problems {α : Type} : Except Problem α → List Problem
  | .ok _ => []
  | .error problem => [problem]

/-- The names of a file that are no settings.  A name with an empty value does no harm. -/
def unknownNames (file : Variables) : List Problem :=
  (file.filter fun (name, value) => !Setting.isKnown name && value != []).map
    fun (name, _) => ⟨name, .unknown⟩

/-- The settings given by the environment and by a file, whose names are in lower case, or all that
is wrong with them. -/
def load (environment file : Variables) : Except (List Problem) Settings :=
  let lowered := environment.lowerCase
  let text (setting : Setting) : Option Text :=
    (lowered.lookup setting.variableName).or (file.lookup setting.variableName)
  let ignoreInvalidFloats :=
    interpret .ignoreInvalidFloats .notBoolean switch? true (text .ignoreInvalidFloats)
  let debug := interpret .debug .notBoolean switch? false (text .debug)
  let logLevel := interpret .logLevel .notLevel LogLevel.ofName? .warning (text .logLevel)
  match ignoreInvalidFloats, debug, logLevel, unknownNames file with
  | .ok ignoreInvalidFloats, .ok debug, .ok logLevel, [] =>
      .ok { ignoreInvalidFloats, debug, logLevel }
  | ignoreInvalidFloats, debug, logLevel, unknown =>
      .error <| Problem.sort <|
        problems ignoreInvalidFloats ++ problems debug ++ problems logLevel ++ unknown

end Settings

end FrameScript
