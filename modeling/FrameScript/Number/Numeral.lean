import FrameScript.Number.Decimal
import FrameScript.Text.Blank

/-!
# Numerals

The written form of a number: an optional sign, digits with an optional point among, before or
after them, and an optional power of ten.  Blanks around a numeral are allowed, names such as
infinity and grouping marks are not.
-/

namespace FrameScript.Number

/-- Splits a sign off a text; the first component says whether it was a minus. -/
def takeSign : Text → Bool × Text
  | '+' :: rest => (false, rest)
  | '-' :: rest => (true, rest)
  | text => (false, text)

def isMinus (text : Text) : Bool := (takeSign text).1

def afterSign (text : Text) : Text := (takeSign text).2

def digitsValue (digits : Text) : Nat := Nat.ofDigitChars 10 digits 0

def exponent? : Text → Option Int
  | [] => some 0
  | mark :: rest =>
      if (mark = 'e' ∨ mark = 'E') ∧ Text.isDigits (afterSign rest) then
        let power : Int := digitsValue (afterSign rest)
        some (if isMinus rest then -power else power)
      else none

def fractionDigits : Text → Text
  | '.' :: rest => rest.takeWhile Char.isDigit
  | _ => []

/-- What follows a point that starts the text and the digits after it. -/
def afterFraction : Text → Text
  | '.' :: rest => rest.dropWhile Char.isDigit
  | text => text

/-- The decimal number written by a numeral without blanks around it. -/
def numeral? (text : Text) : Option Decimal :=
  let body := afterSign text
  let whole := body.takeWhile Char.isDigit
  let tail := body.dropWhile Char.isDigit
  let fraction := fractionDigits tail
  if whole.isEmpty && fraction.isEmpty then none
  else
    (exponent? (afterFraction tail)).map fun power =>
      { negative := isMinus text
        coefficient := digitsValue (whole ++ fraction)
        exponent := power - fraction.length }

/-- The number written by a text, blanks around it allowed. -/
def read? (text : Text) : Option Double := (numeral? (Text.trim text)).map Decimal.toDouble

end FrameScript.Number
