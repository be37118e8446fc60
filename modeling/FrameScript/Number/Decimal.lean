import FrameScript.Number.Double

/-!
# Decimal numbers

A decimal number is a sign, a coefficient and a power of ten.  Its double is the nearest one, with
ties to even, infinite above the finite range and zero far below the least positive number.
-/

namespace FrameScript.Number

/-- The number `± coefficient * 10 ^ exponent`. -/
structure Decimal where
  negative : Bool := false
  coefficient : Nat
  exponent : Int := 0
  deriving DecidableEq, Repr

namespace Decimal

def quanta (decimal : Decimal) : Nat × Nat :=
  match decimal.exponent with
  | .ofNat power => (decimal.coefficient * Nat.pow 10 power * unit, 1)
  | .negSucc power => (decimal.coefficient * unit, Nat.pow 10 (power + 1))

/-- Whether the magnitude is at least `10 ^ 400`, far above the finite range. -/
def isHuge (decimal : Decimal) : Bool := decimal.coefficient != 0 && 400 < decimal.exponent

/-- Whether the magnitude is below `10 ^ -400`, far below half a quantum: a coefficient is less
than ten to the power of its number of binary digits. -/
def isTiny (decimal : Decimal) : Bool :=
  decimal.coefficient == 0 || decimal.exponent + (decimal.coefficient.log2 + 1 : Nat) < -400

def toDouble (decimal : Decimal) : Double :=
  if decimal.isHuge then .infinite decimal.negative
  else if decimal.isTiny then .finite decimal.negative 0 fits_zero
  else .round decimal.negative decimal.quanta.1 decimal.quanta.2

end Decimal

end FrameScript.Number
