import FrameScript.Text.Upper

/-!
# Inputs

The inputs that a line of a script can hold down.  Most of them are written as one letter, their
tag.  A direction can also be held for dashing only or for moving only; such a restricted direction
has no letter of its own and stands in a list behind the tag of its restriction.
-/

namespace FrameScript

inductive Direction where
  | left
  | right
  | up
  | down
  deriving DecidableEq, Repr

inductive Button where
  | jump
  | dash
  | grab
  | start
  | restart
  | journal
  | jump2
  | dash2
  | confirm
  | demoDash
  | demoDash2
  deriving DecidableEq, Repr

/-- What a restricted direction counts for. -/
inductive Restriction where
  | dashOnly
  | moveOnly
  deriving DecidableEq, Repr

/-- What a letter stands for: a direction, a button, the opener of a list of restricted directions,
the opener of a list of pressed keys, or the analog feather. -/
inductive Tag where
  | direction (direction : Direction)
  | button (button : Button)
  | only (restriction : Restriction)
  | keys
  | feather
  deriving DecidableEq, Repr

/-- Anything that can be held: what has a letter, and the restricted directions. -/
inductive Input where
  | tag (tag : Tag)
  | restricted (restriction : Restriction) (direction : Direction)
  deriving DecidableEq, Repr

instance : Coe Tag Input := ⟨Input.tag⟩

def Direction.all : List Direction := [.left, .right, .up, .down]

theorem Direction.mem_all (direction : Direction) : direction ∈ Direction.all := by
  cases direction <;> decide

def Direction.name : Direction → String
  | .left => "LEFT"
  | .right => "RIGHT"
  | .up => "UP"
  | .down => "DOWN"

/-! ## Letters -/

namespace Tag

def letter : Tag → Char
  | .direction .left => 'L'
  | .direction .right => 'R'
  | .direction .up => 'U'
  | .direction .down => 'D'
  | .button .jump => 'J'
  | .button .jump2 => 'K'
  | .button .demoDash => 'Z'
  | .button .demoDash2 => 'V'
  | .button .dash => 'X'
  | .button .dash2 => 'C'
  | .button .grab => 'G'
  | .button .start => 'S'
  | .button .restart => 'Q'
  | .button .journal => 'N'
  | .button .confirm => 'O'
  | .only .dashOnly => 'A'
  | .only .moveOnly => 'M'
  | .keys => 'P'
  | .feather => 'F'

/-- The tags in the order in which a line writes them.  The feather comes last because its numbers
end the line. -/
def all : List Tag := [
  .direction .left, .direction .right, .direction .up, .direction .down, .button .jump,
  .button .jump2, .button .demoDash, .button .demoDash2, .button .dash, .button .dash2,
  .button .grab, .button .start, .button .restart, .button .journal, .button .confirm,
  .only .dashOnly, .only .moveOnly, .keys, .feather]

theorem mem_all (tag : Tag) : tag ∈ all := by
  rcases tag with direction | button | restriction | _ | _
  · cases direction <;> decide
  · cases button <;> decide
  · cases restriction <;> decide
  · decide
  · decide

def ofLetter? (letter : Char) : Option Tag := all.find? fun tag => tag.letter == letter

theorem letter_of_ofLetter? {letter : Char} {tag : Tag} (found : ofLetter? letter = some tag) :
    tag.letter = letter := by
  simpa using List.find?_some found

/-- The tag written by a text that has a single upper-case character, in either case. -/
def ofText? (text : Text) : Option Tag :=
  match Text.upperText text with
  | [letter] => ofLetter? letter
  | _ => none

def ofChar? (char : Char) : Option Tag := ofText? [char]

def direction? : Tag → Option Direction
  | .direction held => some held
  | _ => none

end Tag

/-! ## Keys -/

def keyText (text : Text) : Text :=
  match Text.upperText text with
  | [key] => [key]
  | _ => text

/-- The key written by a character: its upper case, unless that has several characters. -/
def keyOf (char : Char) : Char :=
  match Text.upper char with
  | [key] => key
  | _ => char

namespace Input

def name : Input → String
  | .tag (.direction direction) => direction.name
  | .tag (.button .jump) => "JUMP"
  | .tag (.button .dash) => "DASH"
  | .tag (.button .grab) => "GRAB"
  | .tag (.button .start) => "START"
  | .tag (.button .restart) => "RESTART"
  | .tag .feather => "FEATHER"
  | .tag (.button .journal) => "JOURNAL"
  | .tag (.button .jump2) => "JUMP2"
  | .tag (.button .dash2) => "DASH2"
  | .tag (.button .confirm) => "CONFIRM"
  | .tag (.button .demoDash) => "DEMO_DASH"
  | .tag (.button .demoDash2) => "DEMO_DASH2"
  | .restricted .dashOnly direction => direction.name ++ "_DASH_ONLY"
  | .restricted .moveOnly direction => direction.name ++ "_MOVE_ONLY"
  | .tag (.only .dashOnly) => "DASH_ONLY"
  | .tag (.only .moveOnly) => "MOVE_ONLY"
  | .tag .keys => "PRESSED_KEY"

def all : List Input :=
  (Direction.all.map fun direction => .tag (.direction direction)) ++
    [.tag (.button .jump), .tag (.button .dash), .tag (.button .grab), .tag (.button .start),
      .tag (.button .restart), .tag .feather, .tag (.button .journal), .tag (.button .jump2),
      .tag (.button .dash2), .tag (.button .confirm), .tag (.button .demoDash),
      .tag (.button .demoDash2)] ++
    (Direction.all.map fun direction => .restricted .dashOnly direction) ++
    (Direction.all.map fun direction => .restricted .moveOnly direction) ++
    [.tag (.only .dashOnly), .tag (.only .moveOnly), .tag .keys]

/-- The number of an input: its bit in a set of held inputs. -/
def bit : Input → Nat
  | .tag (.direction .left) => 0
  | .tag (.direction .right) => 1
  | .tag (.direction .up) => 2
  | .tag (.direction .down) => 3
  | .tag (.button .jump) => 4
  | .tag (.button .dash) => 5
  | .tag (.button .grab) => 6
  | .tag (.button .start) => 7
  | .tag (.button .restart) => 8
  | .tag .feather => 9
  | .tag (.button .journal) => 10
  | .tag (.button .jump2) => 11
  | .tag (.button .dash2) => 12
  | .tag (.button .confirm) => 13
  | .tag (.button .demoDash) => 14
  | .tag (.button .demoDash2) => 15
  | .restricted .dashOnly .left => 16
  | .restricted .dashOnly .right => 17
  | .restricted .dashOnly .up => 18
  | .restricted .dashOnly .down => 19
  | .restricted .moveOnly .left => 20
  | .restricted .moveOnly .right => 21
  | .restricted .moveOnly .up => 22
  | .restricted .moveOnly .down => 23
  | .tag (.only .dashOnly) => 24
  | .tag (.only .moveOnly) => 25
  | .tag .keys => 26

def count : Nat := 27

theorem all_bits : all.map bit = List.range count := by decide

end Input

end FrameScript
