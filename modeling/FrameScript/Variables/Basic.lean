import FrameScript.Text.Lower

/-!
# Variables

Names with their values, each name once.  A name keeps its place when it is given another value, and
names are brought to lower case before settings are looked up by them.
-/

namespace FrameScript

/-- Names with what they stand for, in the order in which the names came up first. -/
abbrev Bindings (α : Type) := List (Text × α)

abbrev Variables := Bindings Text

namespace Bindings

def assign {α : Type} (name : Text) (value : α) : Bindings α → Bindings α
  | [] => [(name, value)]
  | entry :: rest =>
      if entry.1 = name then (name, value) :: rest else entry :: assign name value rest

/-- The bindings under names in lower case.  Of names that differ in case only, the last one
counts. -/
def lowerCase {α : Type} (bindings : Bindings α) : Bindings α :=
  bindings.foldl (fun lowered entry => assign (Text.lower entry.1) entry.2 lowered) []

end Bindings

end FrameScript
