import FrameScript.Text.Basic

/-!
# Frame counts

A frame count is read digit by digit.  The number of digits that may be converted is limited,
leading zeros included, and exceeding the limit is a fault rather than a reason to read the line in
another way.
-/

namespace FrameScript

/-- A frame count had more digits than can be converted. -/
structure OverlongCount where
  digits : Nat
  deriving DecidableEq, Repr

def digitLimit : Nat := 4300

def OverlongCount.message (fault : OverlongCount) : String :=
  s!"Exceeds the limit ({digitLimit} digits) for integer string conversion: value has " ++
    s!"{fault.digits} digits; use sys.set_int_max_str_digits() to increase the limit"

/-- A frame count while it is read: its value so far and the number of its digits. -/
structure FrameCount where
  value : Nat := 0
  digits : Nat := 0
  deriving DecidableEq, Repr

namespace FrameCount

def push (count : FrameCount) (digit : Char) : FrameCount :=
  ⟨10 * count.value + (digit.toNat - '0'.toNat), count.digits + 1⟩

def ofDigits (text : Text) : FrameCount := text.foldl push {}

def checked (count : FrameCount) : Except OverlongCount Nat :=
  if digitLimit < count.digits then .error ⟨count.digits⟩ else .ok count.value

/-- The frame count written by a text, if the text is a run of digits. -/
def read? (text : Text) : Except OverlongCount (Option Nat) :=
  if text.isDigits then (ofDigits text).checked.map some else .ok none

theorem foldl_push (text : Text) (count : FrameCount) :
    text.foldl push count = ⟨Nat.ofDigitChars 10 text count.value, count.digits + text.length⟩ := by
  induction text generalizing count with
  | nil => simp
  | cons first rest ih =>
      simp only [List.foldl_cons, ih, push, Nat.ofDigitChars_cons, List.length_cons]
      congr 1
      omega

theorem ofDigits_value (text : Text) : (ofDigits text).value = Nat.ofDigitChars 10 text 0 := by
  simp [ofDigits, foldl_push]

theorem ofDigits_digits (text : Text) : (ofDigits text).digits = text.length := by
  simp [ofDigits, foldl_push]

end FrameCount

end FrameScript
