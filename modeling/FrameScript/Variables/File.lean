import FrameScript.Text.Lines
import FrameScript.Variables.Basic
import FrameScript.Variables.Statement

/-!
# Files of variables

A value may refer to other variables.  A reference is a name between braces behind a dollar sign,
and may give a text for the case that there is no such variable.  It stands for the value that the
file has given the name so far, or else for that of the environment.
-/

namespace FrameScript

/-- A reference to a variable. -/
structure Reference where
  name : Text
  /-- The text for the case that there is no such variable. -/
  default : Text
  /-- The number of characters of the reference. -/
  length : Nat
  deriving DecidableEq, Repr

namespace Reference

def openingBrace : Char := '\x7b'

def closingBrace : Char := '\x7d'

def isNameChar (char : Char) : Bool := char != closingBrace && char != ':'

/-- The reference whose name starts a text, given the text behind the opening brace. -/
def ofName? (text : Text) : Option Reference :=
  let name := text.takeWhile isNameChar
  match text.dropWhile isNameChar with
  | ':' :: '-' :: rest =>
      let default := rest.takeWhile fun char => char != closingBrace
      if rest.contains closingBrace then some ⟨name, default, name.length + default.length + 5⟩
      else none
  | first :: _ => if first = closingBrace then some ⟨name, [], name.length + 3⟩ else none
  | [] => none

def atStart? : Text → Option Reference
  | first :: second :: rest => if first = '$' ∧ second = openingBrace then ofName? rest else none
  | _ => none

/-- What a reference stands for.  A name that the file mentions without a value stands for nothing,
whatever the environment says. -/
def resolve (environment : Variables) (known : Bindings (Option Text)) (reference : Reference) :
    Text :=
  match known.lookup reference.name with
  | some value => value.getD []
  | none => (environment.lookup reference.name).getD reference.default

def expand (environment : Variables) (known : Bindings (Option Text)) (value : Text) : Text :=
  Text.replaceAll
    (fun text => (atStart? text).map fun reference =>
      ⟨reference.resolve environment known, reference.length - 1⟩)
    value

end Reference

namespace Variables

def define (environment : Variables) (known : Bindings (Option Text)) (statement : Statement) :
    Bindings (Option Text) :=
  known.assign statement.name (statement.value.map (Reference.expand environment known))

/-- The variables of a file, under names in lower case.  A name without a value is left out. -/
def ofText (environment : Variables) (text : Text) : Variables :=
  let statements := Statement.readAll (Text.normalizeNewlines text)
  let known := statements.foldl (define environment) []
  known.lowerCase.filterMap fun (name, value) => value.map fun value => (name, value)

def referencedNames : Text → List Text
  | [] => []
  | first :: rest =>
      ((Reference.atStart? (first :: rest)).map Reference.name).toList ++ referencedNames rest

end Variables

end FrameScript
