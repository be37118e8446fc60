import FrameScript.Number.Decimal

/-!
# Shortest decimals

The decimal number with the fewest digits that reads back as a given double.  For one digit, two
digits and so on up to seventeen, the two neighbours of the double among the decimals with that
many digits are tried; the first grid on which one of them reads back decides, the nearer neighbour
if both do, the one with the even last digit if they are equally near.
-/

namespace FrameScript.Number

def tenPower : Int → Nat × Nat
  | .ofNat power => (Nat.pow 10 power, 1)
  | .negSucc power => (1, Nat.pow 10 (power + 1))

/-- The decimal exponent of the first significant digit of a positive number of quanta.  All of
them are above `10 ^ -400`, so the count of whole digits after scaling by `10 ^ 400` gives it. -/
def leadingExponent (quanta : Nat) : Int :=
  ((Text.ofNat (quanta * Nat.pow 10 400 / unit)).length : Int) - 401

def stripZeros : Nat → Nat → Int → Nat × Int
  | 0, coefficient, exponent => (coefficient, exponent)
  | count + 1, coefficient, exponent =>
      if coefficient % 10 = 0 ∧ coefficient ≠ 0 then
        stripZeros count (coefficient / 10) (exponent + 1)
      else (coefficient, exponent)

/-- The decimal with the given coefficient and exponent, its coefficient without zeros at its end,
if it reads back as the positive number of quanta. -/
def candidate? (quanta : Nat) (coefficient : Nat) (exponent : Int) : Option Decimal :=
  let stripped := stripZeros 20 coefficient exponent
  let decimal : Decimal := { coefficient := stripped.1, exponent := stripped.2 }
  if decimal.toDouble.magnitude = quanta then some decimal else none

def neighbour? (quanta : Nat) (digits : Nat) : Option Decimal :=
  let exponent := leadingExponent quanta + 1 - digits
  let scale := tenPower (-exponent)
  let numerator := quanta * scale.1
  let denominator := unit * scale.2
  let below := numerator / denominator
  let twice := 2 * (numerator % denominator)
  let lower := candidate? quanta below exponent
  let upper := candidate? quanta (below + 1) exponent
  if twice < denominator ∨ (twice = denominator ∧ below % 2 = 0) then lower.or upper
  else upper.or lower

def exactDecimal (quanta : Nat) : Decimal :=
  { coefficient := quanta * Nat.pow 5 depth, exponent := -(depth : Int) }

/-- The shortest decimal that reads back as a positive number of quanta. -/
def shortest (quanta : Nat) : Decimal :=
  ((List.range' 1 17).findSome? (neighbour? quanta)).getD (exactDecimal quanta)

end FrameScript.Number
