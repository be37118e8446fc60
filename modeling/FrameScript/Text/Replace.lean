import FrameScript.Text.Basic

/-!
# Replacing

The occurrences of a pattern in a text are found from left to right and without overlaps, and each
of them gives way to a replacement.  What comes together around a replacement is not looked at
again.
-/

namespace FrameScript.Text

/-- An occurrence of a pattern at the start of a text: what takes its place, and how many characters
belong to it behind the first one. -/
structure Occurrence where
  replacement : Text
  further : Nat
  deriving DecidableEq, Repr

/-- Replaces the occurrences in a text of which a number of characters still belongs to one that has
been found. -/
def replaceSkipping (occurrence? : Text → Option Occurrence) : Nat → Text → Text
  | _, [] => []
  | skipped + 1, _ :: rest => replaceSkipping occurrence? skipped rest
  | 0, first :: rest =>
      match occurrence? (first :: rest) with
      | none => first :: replaceSkipping occurrence? 0 rest
      | some found => found.replacement ++ replaceSkipping occurrence? found.further rest

def replaceAll (occurrence? : Text → Option Occurrence) (text : Text) : Text :=
  replaceSkipping occurrence? 0 text

end FrameScript.Text
