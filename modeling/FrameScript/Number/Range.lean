import FrameScript.Number.Layout
import FrameScript.Number.Numeral

/-!
# Ranges

A number typed into a script is limited to a range in one of two ways: keeping the text as it was
typed when its value is in range, or writing the limited value anew.
-/

namespace FrameScript.Number

structure Range where
  low : Double
  high : Double
  deriving DecidableEq, Repr

namespace Range

def angle : Range := ⟨.zero, Decimal.toDouble { coefficient := 360 }⟩

def magnitude : Range := ⟨.zero, Decimal.toDouble { coefficient := 1 }⟩

/-- The number limited to the range: raised to the lower bound first, then lowered to the upper
one.  A number equal to a bound stays itself. -/
def limit (range : Range) (number : Double) : Double :=
  let raised := if number < range.low then range.low else number
  if range.high < raised then range.high else raised

/-- The typed number when it is in range, otherwise the plain text of the bound that it exceeds,
the upper one first; nothing if the text is not a number. -/
def clampText? (range : Range) (text : Text) : Option Text :=
  (read? text).map fun number =>
    if range.high < number then plainText range.high
    else if number < range.low then plainText range.low
    else text

def clampValue? (range : Range) (text : Text) : Option Text :=
  (read? text).map fun number => plainText (range.limit number)

end Range

end FrameScript.Number
