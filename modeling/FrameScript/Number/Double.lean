import FrameScript.Text.Basic

/-!
# Binary floating-point numbers

Double-precision numbers, modelled exactly.  Every finite magnitude is a whole multiple of the
least positive number `2 ^ -1074`, here called a quantum, and the multiples that occur are those
below `2 ^ 2098` with at most fifty-three significant binary digits.  Comparisons go through the
number of quanta, so the two zeros are equal in order although they are two numbers.
-/

namespace FrameScript.Number

def twoPower (exponent : Nat) : Nat := Nat.pow 2 exponent

theorem twoPower_succ (exponent : Nat) : twoPower (exponent + 1) = twoPower exponent * 2 := rfl

theorem twoPower_pos (exponent : Nat) : 0 < twoPower exponent := Nat.two_pow_pos exponent

/-- How many binary places after the point a quantum stands. -/
def depth : Nat := 1074

def unit : Nat := twoPower depth

/-- How many binary digits a finite number can have, counted from a quantum upwards. -/
def width : Nat := 2098

/-- The least number of quanta that no finite number has. -/
def overflow : Nat := twoPower width

/-- The distance of neighbouring numbers around a magnitude, in quanta. -/
def spacing (quanta : Nat) : Nat := twoPower (quanta.log2 - 52)

/-- A magnitude that a finite number has: in range, and a multiple of the spacing around it. -/
def Fits (quanta : Nat) : Prop := quanta < overflow ∧ spacing quanta ∣ quanta

instance (quanta : Nat) : Decidable (Fits quanta) := inferInstanceAs (Decidable (_ ∧ _))

theorem unit_pos : 0 < unit := twoPower_pos depth

theorem overflow_pos : 0 < overflow := twoPower_pos width

theorem fits_zero : Fits 0 := ⟨overflow_pos, Nat.dvd_zero _⟩

/-- A double-precision number other than a not-a-number. -/
inductive Double where
  | finite (negative : Bool) (quanta : Nat) (fits : Fits quanta)
  | infinite (negative : Bool)
  deriving DecidableEq, Repr

namespace Double

def zero : Double := .finite false 0 fits_zero

def magnitude : Double → Nat
  | .finite _ quanta _ => quanta
  | .infinite _ => overflow

def isNegative : Double → Bool
  | .finite negative _ _ => negative
  | .infinite negative => negative

def rank (double : Double) : Int :=
  if double.isNegative then -(double.magnitude : Int) else double.magnitude

instance : LT Double := ⟨fun first second => first.rank < second.rank⟩

instance : LE Double := ⟨fun first second => first.rank ≤ second.rank⟩

instance (first second : Double) : Decidable (first < second) :=
  inferInstanceAs (Decidable (first.rank < second.rank))

instance (first second : Double) : Decidable (first ≤ second) :=
  inferInstanceAs (Decidable (first.rank ≤ second.rank))

def isIntegral : Double → Bool
  | .finite _ quanta _ => quanta % unit == 0
  | .infinite _ => false

end Double

/-! ## Rounding -/

/-- The whole number nearest to a quotient, the even one if two are equally near. -/
def roundQuotient (numerator denominator : Nat) : Nat :=
  let quotient := numerator / denominator
  let twice := 2 * (numerator % denominator)
  if twice < denominator then quotient
  else if denominator < twice then quotient + 1
  else if quotient % 2 = 0 then quotient
  else quotient + 1

/-- The multiple of the local spacing that is nearest to a quotient of quanta. -/
def roundQuanta (numerator denominator : Nat) : Nat :=
  let step := spacing (numerator / denominator)
  roundQuotient numerator (denominator * step) * step

/-- The number nearest to a quotient of quanta, infinite when that is out of range. -/
def Double.round (negative : Bool) (numerator denominator : Nat) : Double :=
  let quanta := roundQuanta numerator denominator
  if fits : Fits quanta then .finite negative quanta fits else .infinite negative

end FrameScript.Number
