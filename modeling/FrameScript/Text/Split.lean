import FrameScript.Text.Basic

/-!
# Splitting at a separator

A text is divided at every occurrence of a separator, from left to right and without overlaps.
-/

namespace FrameScript.Text

/-- Splits a text of which a number of characters still belongs to an occurrence of the separator
that has been found. -/
def splitSkipping (separator : Text) : Nat → Text → List Text
  | _, [] => [[]]
  | skipped + 1, _ :: rest => splitSkipping separator skipped rest
  | 0, first :: rest =>
      if separator.isPrefixOf (first :: rest) then
        [] :: splitSkipping separator (separator.length - 1) rest
      else
        match splitSkipping separator 0 rest with
        | [] => [[first]]
        | part :: parts => (first :: part) :: parts

def divide (separator text : Text) : List Text := splitSkipping separator 0 text

end FrameScript.Text
