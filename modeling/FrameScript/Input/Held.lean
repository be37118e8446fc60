import FrameScript.Input.Basic

/-!
# Held inputs

A set of inputs is a natural number whose binary digits say which inputs are held.  Digits that
belong to no input are kept but never written, so a set that came from elsewhere survives.
-/

namespace FrameScript

/-- A set of held inputs, one binary digit for each. -/
structure Held where
  mask : Nat
  deriving DecidableEq, Repr

namespace Held

def empty : Held := ⟨0⟩

instance : EmptyCollection Held := ⟨empty⟩

def contains (held : Held) (input : Input) : Bool := held.mask.testBit input.bit

def insert (held : Held) (input : Input) : Held := ⟨held.mask ||| 1 <<< input.bit⟩

def singleton (input : Input) : Held := ⟨1 <<< input.bit⟩

def ofInput? : Option Input → Held
  | some input => singleton input
  | none => ∅

def tags (held : Held) : List Tag := Tag.all.filter fun tag => held.contains (.tag tag)

/-- The directions that a set holds under a restriction. -/
def restricted (held : Held) (restriction : Restriction) : List Direction :=
  Direction.all.filter fun direction => held.contains (.restricted restriction direction)

def single? (held : Held) : Option Input :=
  Input.all.find? fun input => held.mask == 1 <<< input.bit

/-- The character of a set: the letter of its only tag, a space for anything else. -/
def char (held : Held) : Char :=
  match held.single? with
  | some (.tag tag) => tag.letter
  | _ => ' '

def restrict (restriction : Restriction) (held : Held) : Held :=
  match held.single? with
  | some (.tag (.direction direction)) => singleton (.restricted restriction direction)
  | _ => ∅

def isDirection (held : Held) : Bool :=
  match held.single? with
  | some (.tag (.direction _)) => true
  | _ => false

def isRestrictedDirection (held : Held) : Bool :=
  match held.single? with
  | some (.restricted ..) => true
  | _ => false

def isOpener (held : Held) : Bool :=
  match held.single? with
  | some (.tag (.only _)) => true
  | some (.tag .keys) => true
  | _ => false

theorem contains_insert (held : Held) (added input : Input) :
    (held.insert added).contains input =
      (held.contains input || decide (added.bit = input.bit)) := by
  simp [contains, insert, Nat.testBit_or, Nat.one_shiftLeft, Nat.testBit_two_pow]

/-- The part of a set that belongs to no input. -/
def unnamed (held : Held) : Nat := (held.mask >>> Input.count) <<< Input.count

/-- The names of the inputs of a set, from the lowest digit up, then what has no name as one
number. -/
def members (held : Held) : List String :=
  (Input.all.filter held.contains).map Input.name ++
    (if held.unnamed = 0 then [] else [toString held.unnamed])

def description (held : Held) : String :=
  let names :=
    if held.mask = 0 then ".NONE"
    else if held.unnamed = held.mask then ""
    else "." ++ "|".intercalate held.members
  s!"<Actions{names}: {held.mask}>"

/-! ## Expansion -/

/-- A list of restricted directions was asked of a set without the tag that opens it. -/
structure MissingOpener where
  restriction : Restriction
  held : Held
  deriving DecidableEq, Repr

def MissingOpener.message (problem : MissingOpener) : String :=
  let opener := Input.name (.tag (.only problem.restriction))
  s!"Cannot expand {opener} directions from {problem.held.description}"

/-- The directions under a restriction, provided that the tag of the restriction is held. -/
def expand (held : Held) (restriction : Restriction) : Except MissingOpener (List Direction) :=
  if held.contains (.tag (.only restriction)) then .ok (held.restricted restriction)
  else .error ⟨restriction, held⟩

end Held

end FrameScript
