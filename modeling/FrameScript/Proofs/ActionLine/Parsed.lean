import FrameScript.ActionLine.Read
import FrameScript.Proofs.Input.Sets
import FrameScript.Proofs.Number.Ranges

/-!
# Lines that have been read

What every action line has that either reader can give: restricted directions only behind their
opener, numbers only with the feather, a magnitude only with an angle, keys only behind theirs, and
each key written by a character of the text.  That each reader gives such lines only is shown in
the modules about the two readers.
-/

namespace FrameScript

open Number (Range)

/-- What every step keeps holds at the end. -/
theorem foldlM_preserves {σ α ε : Type} {step : σ → α → Except ε σ} (Holds : σ → Prop)
    {items : List α}
    (kept : ∀ item ∈ items, ∀ state next, Holds state → step state item = .ok next → Holds next)
    {start last : σ} (initial : Holds start) (ran : items.foldlM step start = .ok last) :
    Holds last := by
  induction items generalizing start with
  | nil =>
      cases ran
      exact initial
  | cons item rest ih =>
      rw [List.foldlM_cons] at ran
      cases taken : step start item with
      | error problem =>
          rw [taken] at ran
          cases ran
      | ok next =>
          rw [taken] at ran
          exact ih (fun other member => kept other (by simp [member]))
            (kept item (by simp) start next initial taken) ran

theorem foldlM_cons_of_ok {σ α ε : Type} {step : σ → α → Except ε σ} {item : α} {rest : List α}
    {start next : σ} (taken : step start item = .ok next) :
    (item :: rest).foldlM step start = rest.foldlM step next := by
  rw [List.foldlM_cons, taken]
  rfl

/-- A fold that never fails and changes one part of its state is a fold of that part. -/
theorem foldlM_of_ok {σ α β ε : Type} {step : σ → α → Except ε σ} (state : β → σ)
    (next : β → α → β) {items : List α}
    (taken : ∀ item ∈ items, ∀ part, step (state part) item = .ok (state (next part item)))
    (start : β) : items.foldlM step (state start) = .ok (state (items.foldl next start)) := by
  induction items generalizing start with
  | nil => rfl
  | cons item rest ih =>
      rw [foldlM_cons_of_ok (taken item (by simp) start),
        ih fun other member => taken other (by simp [member])]
      rfl

namespace FrameCount

/-- A count whose value has no more digits than were read. -/
def Bounded (count : FrameCount) : Prop := count.value < Nat.pow 10 count.digits

theorem bounded_empty : Bounded {} := Nat.one_pos

theorem Bounded.push {count : FrameCount} (bounded : count.Bounded) {digit : Char}
    (isDigit : digit.isDigit = true) : (count.push digit).Bounded := by
  rw [Number.isDigit_iff] at isDigit
  have zero : '0'.toNat = 0x30 := rfl
  have power : Nat.pow 10 (count.digits + 1) = Nat.pow 10 count.digits * 10 := rfl
  rw [Bounded] at bounded ⊢
  simp only [FrameCount.push, zero, power]
  omega

theorem bounded_ofDigits {text : Text} (digits : ∀ char ∈ text, char.isDigit = true) :
    (ofDigits text).Bounded := by
  have general (start : FrameCount) (bounded : start.Bounded) :
      (text.foldl FrameCount.push start).Bounded := by
    induction text generalizing start with
    | nil => exact bounded
    | cons first rest ih =>
        exact ih (fun char member => digits char (by simp [member])) _
          (bounded.push (digits first (by simp)))
  exact general {} bounded_empty

/-- A count that could be converted is written with at most as many digits as are converted. -/
theorem length_ofNat_le {count : FrameCount} {frames : Nat} (bounded : count.Bounded)
    (given : count.digits ≠ 0) (converted : count.checked = .ok frames) :
    (Text.ofNat frames).length ≤ digitLimit := by
  rw [checked] at converted
  split at converted
  · cases converted
  · rename_i within
    cases converted
    have length : (Text.ofNat count.value).length ≤ count.digits :=
      (Nat.length_toDigits_le_iff (by decide) (Nat.pos_of_ne_zero given)).2 bounded
    omega

end FrameCount

/-! ## Consistent lines -/

/-- A set of keys that were written by characters of a text, none of which divides fields. -/
def KeySet.WrittenBy (source : Text) (set : KeySet) : Prop :=
  ∀ key ∈ set, ∃ char ∈ source, char ≠ ActionLine.delimiter ∧ key = [keyOf char]

theorem KeySet.WrittenBy.typed {source : Text} {set : KeySet} (written : set.WrittenBy source) :
    set.Typed := by
  intro key member
  obtain ⟨char, _, different, rfl⟩ := written key member
  refine ⟨keyOf char, rfl, keyOf_keyOf char, ?_⟩
  intro same
  exact different ((keyOf_eq_iff (by decide)).1 same)

theorem KeySet.WrittenBy.visible {source : Text} {set : KeySet} (written : set.WrittenBy source)
    (visible : ∀ char ∈ source, Text.isBlank char = false) : set.Visible := by
  intro key member
  obtain ⟨char, inside, _, shape⟩ := written [key] member
  obtain rfl : key = keyOf char := by simpa using shape
  rw [isBlank_keyOf, visible char inside]

namespace ActionLine

/-- A line in which nothing stands without what opens it, and whose keys come from a text. -/
structure Consistent (source : Text) (line : ActionLine) : Prop where
  named : line.held.Named
  opened : ∀ restriction direction,
    line.held.contains (.restricted restriction direction) = true →
      line.held.contains (.tag (.only restriction)) = true
  feathered : line.angle ≠ none ∨ line.magnitude ≠ none →
    line.held.contains (.tag .feather) = true
  keyed : ∀ key ∈ line.keys, line.held.contains (.tag .keys) = true
  written : line.keys.WrittenBy source

theorem consistent_start (source : Text) (frames : Int) : Consistent source { frames } where
  named := Held.named_empty
  opened := by simp
  feathered := by simp
  keyed := fun key member => absurd member (KeySet.not_mem_empty key)
  written := fun key member => absurd member (KeySet.not_mem_empty key)

namespace Consistent

variable {source : Text} {line : ActionLine}

theorem withFrames (consistent : Consistent source line) (frames : Int) :
    Consistent source { line with frames } :=
  ⟨consistent.named, consistent.opened, consistent.feathered, consistent.keyed, consistent.written⟩

theorem hold (consistent : Consistent source line) (tag : Tag) :
    Consistent source (line.hold tag) where
  named := consistent.named.insert _
  opened := by
    intro restriction direction held
    simp only [ActionLine.hold, Held.contains_insert_iff] at held ⊢
    rcases held with before | new
    · exact Or.inl (consistent.opened _ _ before)
    · cases new
  feathered := fun given => by
    simp only [ActionLine.hold, Held.contains_insert_iff]
    exact Or.inl (consistent.feathered given)
  keyed := fun key member => by
    simp only [ActionLine.hold, Held.contains_insert_iff]
    exact Or.inl (consistent.keyed key member)
  written := consistent.written

theorem holdRestricted (consistent : Consistent source line) {restriction : Restriction}
    (opener : line.held.contains (.tag (.only restriction)) = true) (direction : Direction) :
    Consistent source (line.hold (.restricted restriction direction)) where
  named := consistent.named.insert _
  opened := by
    intro other way held
    simp only [ActionLine.hold, Held.contains_insert_iff] at held ⊢
    rcases held with before | new
    · exact Or.inl (consistent.opened _ _ before)
    · obtain ⟨rfl, rfl⟩ : other = restriction ∧ way = direction := by simpa using new
      exact Or.inl opener
  feathered := fun given => by
    simp only [ActionLine.hold, Held.contains_insert_iff]
    exact Or.inl (consistent.feathered given)
  keyed := fun key member => by
    simp only [ActionLine.hold, Held.contains_insert_iff]
    exact Or.inl (consistent.keyed key member)
  written := consistent.written

theorem withKeys (consistent : Consistent source line)
    (opener : line.held.contains (.tag .keys) = true) {keys : KeySet}
    (written : keys.WrittenBy source) : Consistent source { line with keys } :=
  ⟨consistent.named, consistent.opened, consistent.feathered, fun _ _ => opener, written⟩

theorem withNumbers (consistent : Consistent source line) {angle magnitude : Option Text}
    (feather : angle ≠ none ∨ magnitude ≠ none → line.held.contains (.tag .feather) = true) :
    Consistent source { line with angle, magnitude } :=
  ⟨consistent.named, consistent.opened, feather, consistent.keyed, consistent.written⟩

end Consistent

theorem contains_hold_self (line : ActionLine) (tag : Tag) :
    (line.hold tag).held.contains (.tag tag) = true := by
  simp [ActionLine.hold]

theorem contains_hold_of_contains {line : ActionLine} {input : Input}
    (held : line.held.contains input = true) (added : Input) :
    (line.hold added).held.contains input = true := by
  simp [ActionLine.hold, held]

/-- A text of digits and points that is not a number. -/
def Kept (text : Text) : Prop :=
  text ≠ [] ∧ Number.read? text = none ∧ ∀ char ∈ text, Lenient.isNumberChar char = true

/-- A line whose numbers are in range, apart from a magnitude that was left open. -/
structure InRange (line : ActionLine) : Prop where
  angle : ∀ text, line.angle = some text → Range.angle.Admits text
  magnitude : ∀ text, line.magnitude = some text → text = [] ∨ Range.magnitude.Admits text

/-- A line with a frame count that can be written with as many digits as are converted. -/
def Framed (line : ActionLine) : Prop :=
  ∃ frames : Nat, line.frames = frames ∧ (Text.ofNat frames).length ≤ digitLimit

/-- A line that a reader can give for a text. -/
structure Parsed (source : Text) (line : ActionLine) : Prop extends Consistent source line where
  counted : line.Framed
  angled : line.magnitude ≠ none → line.angle ≠ none
  angle : ∀ text, line.angle = some text → Range.angle.Admits text ∨ Kept text
  magnitude : ∀ text, line.magnitude = some text →
    text = [] ∨ Range.magnitude.Admits text ∨ Kept text

/-- A line all of whose numbers are numbers, apart from a magnitude that was left open. -/
def Numeric (line : ActionLine) : Prop :=
  ∀ text, line.angle = some text ∨ line.magnitude = some text → text ≠ [] →
    (Number.read? text).isSome = true

theorem Kept.not_isSome {text : Text} (kept : Kept text) :
    ¬(Number.read? text).isSome = true := by
  rw [kept.2.1]
  exact Bool.false_ne_true

theorem Parsed.inRange {source : Text} {line : ActionLine} (parsed : Parsed source line)
    (numeric : line.Numeric) : line.InRange where
  angle := by
    intro text given
    rcases parsed.angle text given with admitted | kept
    · exact admitted
    · exact absurd (numeric text (Or.inl given) kept.1) kept.not_isSome
  magnitude := by
    intro text given
    rcases parsed.magnitude text given with vacant | admitted | kept
    · exact Or.inl vacant
    · exact Or.inr admitted
    · exact absurd (numeric text (Or.inr given) kept.1) kept.not_isSome

theorem InRange.numeric {line : ActionLine} (inRange : line.InRange) : line.Numeric := by
  rintro text (angle | magnitude) given
  · exact (inRange.angle text angle).read?_isSome
  · rcases inRange.magnitude text magnitude with vacant | admitted
    · exact absurd vacant given
    · exact admitted.read?_isSome

end ActionLine

end FrameScript
