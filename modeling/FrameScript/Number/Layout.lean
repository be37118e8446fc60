import FrameScript.Number.Shortest

/-!
# The text of a number

Two ways of writing a double.  The full form always shows a point or a power of ten; the plain form
writes a whole number as an integer and anything else in the full form.
-/

namespace FrameScript.Number

def powerText (exponent : Int) : Text :=
  (if exponent < 0 then '-' else '+') :: (Text.ofNat exponent.natAbs).leftpad 2 '0'

def scientificDigits : Text → Text
  | [] => []
  | [digit] => [digit]
  | first :: rest => first :: '.' :: rest

/-- A power of ten is written when the first significant digit stands below the fourth place after
the point or above the sixteenth place before it. -/
def usesPower (leading : Int) : Bool := leading < -4 || 16 ≤ leading

/-- The digits with a point among them, `places` digits standing after it. -/
def positional (digits : Text) (places : Nat) : Text :=
  let padded := digits.leftpad (places + 1) '0'
  padded.take (padded.length - places) ++ '.' :: padded.drop (padded.length - places)

def decimalText (decimal : Decimal) : Text :=
  let digits := Text.ofNat decimal.coefficient
  let leading := (digits.length : Int) - 1 + decimal.exponent
  if usesPower leading then scientificDigits digits ++ 'e' :: powerText leading
  else
    match decimal.exponent with
    | .ofNat zeros => digits ++ List.replicate zeros '0' ++ ['.', '0']
    | .negSucc places => positional digits (places + 1)

def signText (negative : Bool) : Text := if negative then ['-'] else []

def fullText : Double → Text
  | .infinite negative => signText negative ++ ['i', 'n', 'f']
  | .finite negative quanta _ =>
      signText negative ++ (if quanta = 0 then ['0', '.', '0'] else decimalText (shortest quanta))

/-- The plain form of a number.  The negative zero is written as zero. -/
def plainText (double : Double) : Text :=
  if double.isIntegral then
    signText (double.isNegative && double.magnitude != 0) ++ Text.ofNat (double.magnitude / unit)
  else fullText double

end FrameScript.Number
