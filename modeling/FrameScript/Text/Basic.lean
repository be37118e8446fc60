/-!
# Texts

A script is read and written as a sequence of Unicode characters, so the library works on lists of
characters.  Lengths, positions and orders of texts count characters, never bytes.
-/

namespace FrameScript

/-- A text is the list of its characters. -/
abbrev Text := List Char

namespace Text

def ofNat (number : Nat) : Text := Nat.toDigits 10 number

/-- The text of an integer in decimal digits, with a minus sign below zero. -/
def ofInt : Int → Text
  | .ofNat number => ofNat number
  | .negSucc number => '-' :: ofNat (number + 1)

/-- Whether a text is a run of one or more ASCII digits. -/
def isDigits (text : Text) : Bool := !text.isEmpty && text.all Char.isDigit

/-- Whether a character lies in one of the ranges, which are given by first and last code point. -/
def liesIn (ranges : List (Nat × Nat)) (char : Char) : Bool :=
  ranges.any fun (first, last) => first ≤ char.toNat && char.toNat ≤ last

theorem isDigits_iff {text : Text} :
    isDigits text = true ↔ text ≠ [] ∧ ∀ char ∈ text, char.isDigit = true := by
  simp [isDigits]

theorem ofInt_natCast (number : Nat) : ofInt (number : Int) = ofNat number := rfl

theorem ofNat_ne_nil (number : Nat) : ofNat number ≠ [] := Nat.toDigits_ne_nil

theorem isDigit_of_mem_ofNat {number : Nat} {digit : Char} (member : digit ∈ ofNat number) :
    digit.isDigit = true :=
  Nat.isDigit_of_mem_toDigits (by decide) (by decide) member

end Text

end FrameScript
