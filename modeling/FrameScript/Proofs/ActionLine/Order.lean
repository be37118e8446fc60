import FrameScript.Proofs.ActionLine.Plain
import Mathlib.Data.List.Perm.Basic

/-!
# The order of fields

The fields of a delimited line may stand in any order, as long as the two numbers of the feather
stay behind it.  Each block of fields makes its own changes to the line.  Held inputs add up in any
order, and neither the list of keys nor the numbers of the feather may be given twice.
-/

namespace FrameScript

open ActionLine (delimiter)
open Delimited (fieldInputs fieldsOf holdField opensFeather opensKeys)
open Number (Range)

instance : RightCommutative Held.insert where
  right_comm held first second := by
    apply congrArg Held.mk
    change (held.mask ||| _) ||| _ = (held.mask ||| _) ||| _
    rw [Nat.or_assoc, Nat.or_comm (1 <<< first.bit), Nat.or_assoc]

/-- What a part of a text changes in a line: inputs that it holds, and the keys and the numbers of
the feather if it gives them. -/
structure Change where
  inputs : List Input
  keys : Option KeySet
  numbers : Option (Option Text × Option Text)

namespace Change

def apply (line : ActionLine) (change : Change) : ActionLine :=
  { line with
    held := change.inputs.foldl Held.insert line.held
    keys := change.keys.getD line.keys
    angle := (change.numbers.map Prod.fst).getD line.angle
    magnitude := (change.numbers.map Prod.snd).getD line.magnitude }

/-- What is given at most once does not depend on the order. -/
theorem getD_comm {α : Type} {first second : Option α} (once : first = none ∨ second = none)
    (start : α) : second.getD (first.getD start) = first.getD (second.getD start) := by
  rcases once with rfl | rfl <;> rfl

/-- Changes can be made in either order if they do not both give the keys or both give the
numbers. -/
theorem apply_comm {first second : Change} (keys : first.keys = none ∨ second.keys = none)
    (numbers : first.numbers = none ∨ second.numbers = none) (line : ActionLine) :
    apply (apply line first) second = apply (apply line second) first := by
  have held : second.inputs.foldl Held.insert (first.inputs.foldl Held.insert line.held) =
      first.inputs.foldl Held.insert (second.inputs.foldl Held.insert line.held) := by
    rw [← List.foldl_append, ← List.foldl_append]
    exact List.perm_append_comm.foldl_eq line.held
  have angle := numbers.imp (congrArg (Option.map Prod.fst)) (congrArg (Option.map Prod.fst))
  have magnitude := numbers.imp (congrArg (Option.map Prod.snd)) (congrArg (Option.map Prod.snd))
  simp only [apply, held, getD_comm keys, getD_comm angle, getD_comm magnitude]

end Change

/-- Fields that stay together: a single field, or the feather with its two numbers. -/
inductive Block where
  | single (field : Text)
  | feather (opener angle magnitude : Text)
  deriving DecidableEq, Repr

namespace Block

def fields : Block → List Text
  | .single field => [field]
  | .feather opener angle magnitude => [opener, angle, magnitude]

def isFeather : Block → Bool
  | .single _ => false
  | .feather .. => true

/-- Whether a field of the block opens a list of keys. -/
def isKeyed (block : Block) : Bool := block.fields.any fun field => opensKeys (Text.trim field)

/-- A single field does not open with the feather; a feather is followed by numbers. -/
def Sound : Block → Prop
  | .single field => opensFeather (Text.trim field) = false
  | .feather opener angle magnitude =>
      opensFeather (Text.trim opener) = true ∧
        (Number.read? (Text.trim angle)).isSome = true ∧
        (Number.read? (Text.trim magnitude)).isSome = true

instance : (block : Block) → Decidable block.Sound
  | .single _ => inferInstanceAs (Decidable (_ = _))
  | .feather .. => inferInstanceAs (Decidable (_ ∧ _ ∧ _))

/-- What a block changes in a line. -/
def change : Block → Change
  | .single field =>
      { inputs := fieldInputs (Text.trim field)
        keys := if opensKeys (Text.trim field) then some (.ofText (Text.trim field).tail) else none
        numbers := none }
  | .feather _ angle magnitude =>
      { inputs := [.tag .feather]
        keys := none
        numbers := some (Range.angle.clampText? (Text.trim angle),
          Range.magnitude.clampText? (Text.trim magnitude)) }

/-- The line with the change of a block made. -/
def hold (line : ActionLine) (block : Block) : ActionLine := block.change.apply line

theorem change_keys {block : Block} (unkeyed : block.isKeyed = false) :
    block.change.keys = none := by
  cases block with
  | single field =>
      rw [isKeyed, fields, List.any_cons, List.any_nil, Bool.or_false] at unkeyed
      rw [change, unkeyed]
      rfl
  | feather opener angle magnitude => rfl

theorem change_numbers {block : Block} (other : block.isFeather = false) :
    block.change.numbers = none := by
  cases block with
  | single field => rfl
  | feather opener angle magnitude => cases other

/-- A number in the place of the angle is limited and kept. -/
theorem step_angle (tolerant : Bool) (line : ActionLine) {field : Text}
    (numeric : (Number.read? field).isSome = true) :
    Delimited.step tolerant ⟨.angle, line⟩ field =
      .ok ⟨.magnitude, { line with angle := Range.angle.clampText? field }⟩ := by
  obtain ⟨number, found⟩ := Option.isSome_iff_exists.1 numeric
  simp only [Delimited.step, Range.clampText?, found, Option.map_some]

/-- A number in the place of the magnitude is limited and kept. -/
theorem step_magnitude (tolerant : Bool) (line : ActionLine) {field : Text}
    (numeric : (Number.read? field).isSome = true) :
    Delimited.step tolerant ⟨.magnitude, line⟩ field =
      .ok ⟨.tag, { line with magnitude := Range.magnitude.clampText? field }⟩ := by
  have given : field.isEmpty = false := by
    cases field with
    | nil => cases numeric
    | cons _ _ => rfl
  obtain ⟨number, found⟩ := Option.isSome_iff_exists.1 numeric
  simp only [Delimited.step, given, Range.clampText?, found, Option.map_some]
  rfl

/-- The fields of a sound block make its change, and a tag is expected behind them. -/
theorem Sound.foldlM {block : Block} (sound : block.Sound) (tolerant : Bool) (line : ActionLine) :
    (block.fields.map Text.trim).foldlM (Delimited.step tolerant) ⟨.tag, line⟩ =
      .ok ⟨.tag, block.hold line⟩ := by
  cases block with
  | single field =>
      have taken : Delimited.step tolerant ⟨.tag, line⟩ (Text.trim field) =
          .ok ⟨.tag, holdField line (Text.trim field)⟩ :=
        congrArg Except.ok (Delimited.takeTag_of_featherless line sound)
      rw [fields, List.map_cons, foldlM_cons_of_ok taken, Delimited.holdField_eq]
      cases keyed : opensKeys (Text.trim field) with
      | true =>
          simp only [hold, Change.apply, change, keyed]
          rfl
      | false =>
          simp only [hold, Change.apply, change, keyed]
          rfl
  | feather opener angle magnitude =>
      obtain ⟨opens, numeric, sized⟩ := sound
      have taken : Delimited.step tolerant ⟨.tag, line⟩ (Text.trim opener) =
          .ok ⟨.angle, line.hold (.tag .feather)⟩ :=
        congrArg Except.ok (Delimited.takeTag_of_opensFeather line opens)
      rw [fields, List.map_cons, foldlM_cons_of_ok taken, List.map_cons,
        foldlM_cons_of_ok (step_angle tolerant _ numeric), List.map_cons,
        foldlM_cons_of_ok (step_magnitude tolerant _ sized)]
      rfl

/-- Blocks are read one after the other, and none of them reaches into the next. -/
theorem foldlM_flatMap {blocks : List Block} (sound : ∀ block ∈ blocks, block.Sound)
    (tolerant : Bool) (line : ActionLine) :
    ((blocks.flatMap fields).map Text.trim).foldlM (Delimited.step tolerant) ⟨.tag, line⟩ =
      .ok ⟨.tag, blocks.foldl hold line⟩ := by
  induction blocks generalizing line with
  | nil => rfl
  | cons block rest ih =>
      rw [List.flatMap_cons, List.map_append, List.foldlM_append,
        (sound block (by simp)).foldlM tolerant line]
      exact ih (fun other member => sound other (by simp [member])) (block.hold line)

/-- Of two different blocks one fails a test that is passed once at most. -/
theorem fails_of_countP {test : Block → Bool} {blocks : List Block}
    (once : blocks.countP test ≤ 1) {first second : Block} (inFirst : first ∈ blocks)
    (inSecond : second ∈ blocks) (different : first ≠ second) :
    test first = false ∨ test second = false := by
  by_contra both
  rw [not_or, Bool.not_eq_false, Bool.not_eq_false] at both
  have later := (List.mem_erase_of_ne different.symm).2 inSecond
  rw [(List.perm_cons_erase inFirst).countP_eq, List.countP_cons_of_pos both.1] at once
  exact List.countP_eq_zero.1 (by omega) second later both.2

end Block

/-! ## Arrangements -/

/-- A frame count that can be converted and sound blocks behind it, of which one at most is the
feather and one at most opens a list of keys. -/
structure Arrangement (count : Text) (blocks : List Block) : Prop where
  isDigits : (Text.trim count).isDigits = true
  fits : (Text.trim count).length ≤ digitLimit
  sound : ∀ block ∈ blocks, block.Sound
  undivided : ∀ field ∈ blocks.flatMap Block.fields, delimiter ∉ field
  feathered : blocks.countP Block.isFeather ≤ 1
  keyed : blocks.countP Block.isKeyed ≤ 1

namespace Arrangement

/-- The text of a frame count and of the fields of blocks. -/
def joined (count : Text) (blocks : List Block) : Text :=
  [delimiter].intercalate (count :: blocks.flatMap Block.fields)

/-- The line that an arrangement writes: its count, and what one block after the other changes. -/
def line (count : Text) (blocks : List Block) : ActionLine :=
  blocks.foldl Block.hold { frames := Number.digitsValue (Text.trim count) }

variable {count : Text} {blocks : List Block} (arrangement : Arrangement count blocks)

include arrangement

theorem perm {others : List Block} (permuted : others.Perm blocks) : Arrangement count others where
  isDigits := arrangement.isDigits
  fits := arrangement.fits
  sound block member := arrangement.sound block (permuted.mem_iff.1 member)
  undivided field member :=
    arrangement.undivided field ((permuted.flatMap_right Block.fields).mem_iff.1 member)
  feathered := by
    rw [permuted.countP_eq]
    exact arrangement.feathered
  keyed := by
    rw [permuted.countP_eq]
    exact arrangement.keyed

theorem fieldsOf_joined :
    fieldsOf (joined count blocks) =
      Text.trim count :: (blocks.flatMap Block.fields).map Text.trim := by
  refine Delimited.fieldsOf_intercalate fun field member => ?_
  rcases List.mem_cons.1 member with rfl | inside
  · intro divides
    have kept : delimiter ∈ Text.compact field := List.mem_filter.2 ⟨divides, by decide⟩
    rw [← Text.compact_trim] at kept
    have digit := (Text.isDigits_iff.1 arrangement.isDigits).2 delimiter
      ((Text.compact_sublist _).subset kept)
    exact absurd digit (by decide)
  · exact arrangement.undivided field inside

theorem read_joined (tolerant : Bool) :
    Delimited.read tolerant (joined count blocks) = .ok (line count blocks) := by
  have counted : Delimited.countField (joined count blocks) = Text.trim count := by
    rw [← Delimited.headD_fieldsOf, arrangement.fieldsOf_joined, List.headD_cons]
  rw [Delimited.read_of_counted (by rw [counted, arrangement.isDigits])
      (by rw [counted]; exact arrangement.fits),
    counted, arrangement.fieldsOf_joined, List.tail_cons, Delimited.readFields,
    Block.foldlM_flatMap arrangement.sound]
  rfl

/-- The changes of two blocks can be made in either order. -/
theorem hold_comm {first second : Block} (inFirst : first ∈ blocks) (inSecond : second ∈ blocks)
    (line : ActionLine) :
    Block.hold (Block.hold line first) second = Block.hold (Block.hold line second) first := by
  -- A block may occur twice in the list only if it gives neither keys nor numbers, but equal blocks
  -- need no law at all.
  by_cases same : first = second
  · rw [same]
  · have keys := Block.fails_of_countP arrangement.keyed inFirst inSecond same
    have numbers := Block.fails_of_countP arrangement.feathered inFirst inSecond same
    exact Change.apply_comm (keys.imp Block.change_keys Block.change_keys)
      (numbers.imp Block.change_numbers Block.change_numbers) line

end Arrangement

/-- The blocks of an arrangement can be read in any order, whether invalid numbers are tolerated or
not: the line is the same. -/
theorem read_of_permuted {count : Text} {blocks others : List Block}
    (arrangement : Arrangement count blocks) (permuted : others.Perm blocks) (tolerant : Bool) :
    Delimited.read tolerant (Arrangement.joined count others) =
      .ok (Arrangement.line count blocks) := by
  have same : Arrangement.line count others = Arrangement.line count blocks := by
    refine (permuted.symm.foldl_eq' (fun first inFirst second inSecond line => ?_) _).symm
    exact arrangement.hold_comm inFirst inSecond line
  rw [(arrangement.perm permuted).read_joined tolerant, same]

/-- A feather with numbers out of range, first in front of a lone number and then at the end. -/
theorem read_of_permuted_feather :
    ∃ line,
      Delimited.read false "07, F,4e2,-0.5,3,,pb,aLx".toList = .ok line ∧
        Delimited.read true "07,,aLx,3,pb, F,4e2,-0.5".toList = .ok line := by
  have arrangement : Arrangement "07".toList
      [.feather " F".toList "4e2".toList "-0.5".toList, .single ['3'], .single [],
        .single "pb".toList, .single "aLx".toList] :=
    { isDigits := by decide
      fits := by decide
      sound := by decide +kernel
      undivided := by decide
      feathered := by decide
      keyed := by decide +kernel }
  have permuted : ([.single [], .single "aLx".toList, .single ['3'], .single "pb".toList,
        .feather " F".toList "4e2".toList "-0.5".toList] : List Block).Perm
      [.feather " F".toList "4e2".toList "-0.5".toList, .single ['3'], .single [],
        .single "pb".toList, .single "aLx".toList] := by
    decide
  exact ⟨_, read_of_permuted arrangement .rfl false, read_of_permuted arrangement permuted true⟩

end FrameScript
