import FrameScript.Text.Basic

/-!
# Case mappings

A case mapping of Unicode sends one character to one or more characters.  The characters with a
single image lie in runs: the characters of a run are a fixed distance apart, and so are their
images.  The few characters with a longer image are listed one by one.
-/

namespace FrameScript.Text

/-- The characters `first`, `first + stride`, …, `last`, whose images start at `target` and keep
their distances. -/
structure CaseRun where
  first : Nat
  last : Nat
  stride : Nat
  target : Nat
  deriving DecidableEq, Repr

def CaseRun.contains (run : CaseRun) (code : Nat) : Bool :=
  run.first ≤ code && code ≤ run.last && (code - run.first) % run.stride == 0

def CaseRun.image (run : CaseRun) (code : Nat) : Nat := run.target + (code - run.first)

/-- A case mapping: runs of characters with one image and characters with a longer one. -/
structure CaseMap where
  runs : List CaseRun
  expansions : List (Nat × List Nat)
  deriving DecidableEq, Repr

/-- The code points of the image of a code point, which is its own image if nothing is listed. -/
def CaseMap.image (map : CaseMap) (code : Nat) : List Nat :=
  match map.expansions.lookup code with
  | some longer => longer
  | none =>
      match map.runs.find? fun run => run.contains code with
      | some run => [run.image code]
      | none => [code]

def CaseMap.apply (map : CaseMap) (char : Char) : Text := (map.image char.toNat).map Char.ofNat

end FrameScript.Text
