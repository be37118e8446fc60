import FrameScript.ActionLine.Basic
import FrameScript.Proofs.Input.Letters
import FrameScript.Proofs.Text.Trimming

/-!
# Sets of inputs and keys

A set of inputs without unnamed digits is determined by the inputs that it contains, and a set of
keys by its members.  Keys that are single characters and write themselves are read back from their
concatenation, unless blanks are taken from its end and the greatest key is one of them.
-/

namespace FrameScript

namespace Input

theorem mem_all (input : Input) : input ∈ all := by
  rcases input with tag | ⟨restriction, direction⟩
  · have listed : Tag.all.all (fun tag => all.contains (.tag tag)) = true := by decide
    simpa using List.all_eq_true.1 listed tag (Tag.mem_all tag)
  · cases restriction <;> cases direction <;> decide

theorem bit_injective {first second : Input} (same : first.bit = second.bit) : first = second := by
  have apart : all.all (fun first =>
      all.all fun second => first.bit != second.bit || first == second) = true := by decide
  have pair := List.all_eq_true.1 (List.all_eq_true.1 apart first (mem_all first)) second
    (mem_all second)
  simpa [same] using pair

theorem bit_lt (input : Input) : input.bit < count := by
  rw [← List.mem_range, ← all_bits]
  exact List.mem_map_of_mem (mem_all input)

theorem exists_bit {index : Nat} (named : index < count) : ∃ input : Input, input.bit = index := by
  rw [← List.mem_range, ← all_bits, List.mem_map] at named
  obtain ⟨input, _, same⟩ := named
  exact ⟨input, same⟩

end Input

namespace Held

/-- A set of inputs in which every digit belongs to an input. -/
def Named (held : Held) : Prop := ∀ index, Input.count ≤ index → held.mask.testBit index = false

theorem named_empty : Named ∅ := fun _ _ => Nat.zero_testBit _

@[simp] theorem contains_empty (input : Input) : (∅ : Held).contains input = false :=
  Nat.zero_testBit _

theorem Named.insert {held : Held} (named : held.Named) (input : Input) :
    (held.insert input).Named := by
  intro index unnamed
  have different : input.bit ≠ index := by
    have below := input.bit_lt
    omega
  rw [Held.insert, Nat.testBit_or, named index unnamed, Nat.one_shiftLeft, Nat.testBit_two_pow]
  simp [different]

@[simp] theorem contains_insert_iff (held : Held) (added input : Input) :
    (held.insert added).contains input = true ↔ held.contains input = true ∨ input = added := by
  rw [contains_insert, Bool.or_eq_true, decide_eq_true_eq]
  constructor
  · rintro (before | same)
    · exact Or.inl before
    · exact Or.inr (Input.bit_injective same).symm
  · rintro (before | rfl)
    · exact Or.inl before
    · exact Or.inr rfl

theorem ext_contains {first second : Held} (firstNamed : first.Named) (secondNamed : second.Named)
    (same : ∀ input, first.contains input = true ↔ second.contains input = true) :
    first = second := by
  obtain ⟨mask⟩ := first
  obtain ⟨other⟩ := second
  rw [mk.injEq]
  refine Nat.eq_of_testBit_eq fun index => ?_
  by_cases named : index < Input.count
  · obtain ⟨input, rfl⟩ := Input.exists_bit named
    exact Bool.eq_iff_iff.2 (same input)
  · rw [firstNamed index (by omega), secondNamed index (by omega)]

theorem mem_tags {held : Held} {tag : Tag} :
    tag ∈ held.tags ↔ held.contains (.tag tag) = true := by
  simp [tags, Tag.mem_all]

theorem mem_restricted {held : Held} {restriction : Restriction} {direction : Direction} :
    direction ∈ held.restricted restriction ↔
      held.contains (.restricted restriction direction) = true := by
  simp [restricted, Direction.mem_all]

end Held

/-! ## Keys -/

namespace KeySet

theorem eq_of_pairwise {first second : List Text} (firstIncreasing : first.Pairwise (· < ·))
    (secondIncreasing : second.Pairwise (· < ·)) (same : ∀ key, key ∈ first ↔ key ∈ second) :
    first = second := by
  induction first generalizing second with
  | nil =>
      cases second with
      | nil => rfl
      | cons least rest => exact absurd ((same least).2 (by simp)) List.not_mem_nil
  | cons least rest ih =>
      cases second with
      | nil => exact absurd ((same least).1 (by simp)) List.not_mem_nil
      | cons other others =>
          have parts := List.pairwise_cons.1 firstIncreasing
          have otherParts := List.pairwise_cons.1 secondIncreasing
          have heads : least = other := by
            rcases List.mem_cons.1 ((same least).1 (by simp)) with here | later
            · exact here
            rcases List.mem_cons.1 ((same other).2 (by simp)) with here | after
            · exact here.symm
            exact absurd (List.lt_trans (parts.1 other after) (otherParts.1 least later))
              (List.lt_irrefl least)
          subst heads
          have tails (key : Text) : key ∈ rest ↔ key ∈ others := by
            constructor
            · intro member
              rcases List.mem_cons.1 ((same key).1 (by simp [member])) with rfl | found
              · exact absurd (parts.1 key member) (List.lt_irrefl key)
              · exact found
            · intro member
              rcases List.mem_cons.1 ((same key).2 (by simp [member])) with rfl | found
              · exact absurd (otherParts.1 key member) (List.lt_irrefl key)
              · exact found
          rw [ih parts.2 otherParts.2 tails]

/-- Sets with the same members are the same. -/
theorem ext_mem {first second : KeySet} (same : ∀ key, key ∈ first ↔ key ∈ second) :
    first = second := by
  obtain ⟨keys, increasing⟩ := first
  obtain ⟨others, otherIncreasing⟩ := second
  have lists : keys = others := eq_of_pairwise increasing otherIncreasing same
  subst lists
  rfl

theorem not_mem_empty (key : Text) : key ∉ (∅ : KeySet) := List.not_mem_nil

theorem mem_foldl_insert {keys : List Text} {start : KeySet} {key : Text} :
    key ∈ keys.foldl insert start ↔ key ∈ keys ∨ key ∈ start := by
  induction keys generalizing start with
  | nil => simp
  | cons first rest ih =>
      rw [List.foldl_cons, ih, mem_insert, List.mem_cons]
      exact or_left_comm.trans or_assoc.symm

theorem mem_ofList {keys : List Text} {key : Text} : key ∈ ofList keys ↔ key ∈ keys := by
  rw [ofList, mem_foldl_insert]
  exact or_iff_left (not_mem_empty key)

/-- A set whose keys can be typed: each is a single character that writes itself and does not divide
fields. -/
def Typed (set : KeySet) : Prop :=
  ∀ key ∈ set, ∃ char, key = [char] ∧ keyOf char = char ∧ char ≠ ActionLine.delimiter

/-- A set whose greatest key, if there is one, is not a blank. -/
def EndsVisibly (set : KeySet) : Prop :=
  ∀ char, [char] ∈ set → (∀ key ∈ set, ¬[char] < key) → Text.isBlank char = false

/-- A set without blanks among its keys. -/
def Visible (set : KeySet) : Prop := ∀ char, [char] ∈ set → Text.isBlank char = false

/-- The keys that the characters of a text write. -/
def ofText (text : Text) : KeySet := .ofList (text.map fun char => [keyOf char])

/-- The set that is read from the concatenation of the keys of a set, without the blanks at its
end. -/
def readBack (set : KeySet) : KeySet := ofText (Text.trimEnd set.concat)

/-- The set that is read from the concatenation of the keys of a set, without any blank. -/
def compacted (set : KeySet) : KeySet := ofText (Text.compact set.concat)

/-- Adding the keys of a text to none of them or to all of them gives all of them. -/
theorem foldl_insert_eq_ofText {text : Text} {start : KeySet}
    (known : start = ∅ ∨ start = ofText text) :
    (text.map fun char => [keyOf char]).foldl insert start = ofText text := by
  rcases known with rfl | rfl
  · rfl
  · refine ext_mem fun key => ?_
    rw [mem_foldl_insert, ofText, mem_ofList]
    exact or_self_iff

theorem Visible.endsVisibly {set : KeySet} (visible : set.Visible) : set.EndsVisibly :=
  fun char member _ => visible char member

theorem Typed.mem_concat_iff {set : KeySet} (typed : set.Typed) {char : Char} :
    char ∈ set.concat ↔ [char] ∈ set := by
  constructor
  · intro member
    obtain ⟨key, inSet, inside⟩ := List.mem_flatten.1 member
    obtain ⟨other, rfl, _⟩ := typed key inSet
    rwa [List.mem_singleton.1 inside]
  · intro member
    exact List.mem_flatten.2 ⟨[char], member, by simp⟩

theorem Typed.keyOf_eq {set : KeySet} (typed : set.Typed) {char : Char} (member : [char] ∈ set) :
    keyOf char = char := by
  obtain ⟨other, shape, fixed, _⟩ := typed [char] member
  obtain rfl : char = other := by simpa using shape
  exact fixed

theorem Typed.notMem_concat {set : KeySet} (typed : set.Typed) :
    ActionLine.delimiter ∉ set.concat := by
  intro member
  obtain ⟨char, shape, _, different⟩ := typed _ (typed.mem_concat_iff.1 member)
  exact different (by simpa using shape.symm)

theorem Typed.mem_ofText_iff {set : KeySet} (typed : set.Typed) {text : Text}
    (inside : text.Sublist set.concat) {key : Text} :
    key ∈ ofText text ↔ ∃ char ∈ text, key = [char] := by
  have fixed : ∀ char ∈ text, keyOf char = char := fun char member =>
    typed.keyOf_eq (typed.mem_concat_iff.1 (inside.subset member))
  rw [ofText, mem_ofList, List.mem_map]
  constructor
  · rintro ⟨char, member, rfl⟩
    exact ⟨char, member, by rw [fixed char member]⟩
  · rintro ⟨char, member, rfl⟩
    exact ⟨char, member, by rw [fixed char member]⟩

/-- The concatenation of the keys of a set writes the set. -/
theorem Typed.ofText_concat {set : KeySet} (typed : set.Typed) : ofText set.concat = set := by
  refine ext_mem fun key => ?_
  rw [typed.mem_ofText_iff (List.Sublist.refl _)]
  constructor
  · rintro ⟨char, member, rfl⟩
    exact typed.mem_concat_iff.1 member
  · intro member
    obtain ⟨char, rfl, _⟩ := typed key member
    exact ⟨char, typed.mem_concat_iff.2 member, rfl⟩

theorem Typed.readBack_of_trimEnd {set : KeySet} (typed : set.Typed)
    (kept : Text.trimEnd set.concat = set.concat) : set.readBack = set := by
  rw [readBack, kept, typed.ofText_concat]

theorem Typed.mem_readBack_iff {set : KeySet} (typed : set.Typed) {key : Text} :
    key ∈ set.readBack ↔ ∃ char ∈ Text.trimEnd set.concat, key = [char] :=
  typed.mem_ofText_iff (Text.trimEnd_sublist _)

/-- The last key of a set is its greatest. -/
theorem last_not_lt {set : KeySet} {before : List Text} {last : Text}
    (shape : set.keys = before ++ [last]) {key : Text} (member : key ∈ set) : ¬last < key := by
  have increasing := set.increasing
  rw [shape, List.pairwise_append] at increasing
  change key ∈ set.keys at member
  rw [shape, List.mem_append, List.mem_singleton] at member
  rcases member with earlier | rfl
  · have below := increasing.2.2 key earlier last (by simp)
    exact fun above => List.lt_irrefl key (List.lt_trans below above)
  · exact List.lt_irrefl key

theorem endsVisibly_of_last {set : KeySet} {before : List Text} {last : Char}
    (shape : set.keys = before ++ [[last]]) (visible : Text.isBlank last = false) :
    set.EndsVisibly := by
  intro char member greatest
  have increasing := set.increasing
  rw [shape, List.pairwise_append] at increasing
  have inSet : [last] ∈ set := by
    change [last] ∈ set.keys
    simp [shape]
  change [char] ∈ set.keys at member
  rw [shape, List.mem_append, List.mem_singleton] at member
  rcases member with earlier | same
  · exact absurd (increasing.2.2 _ earlier _ (by simp)) (greatest _ inSet)
  · obtain rfl : char = last := by simpa using same
    exact visible

/-- The keys of a set are read back exactly when the greatest one is not a blank. -/
theorem Typed.readBack_eq_iff {set : KeySet} (typed : set.Typed) :
    set.readBack = set ↔ set.EndsVisibly := by
  rcases List.eq_nil_or_concat set.keys with none | ⟨before, last, shape⟩
  · have vacant : set.concat = [] := by rw [concat, none, List.flatten_nil]
    refine ⟨fun _ char member => ?_, fun _ => typed.readBack_of_trimEnd (by rw [vacant]; rfl)⟩
    change [char] ∈ set.keys at member
    rw [none] at member
    cases member
  rw [List.concat_eq_append] at shape
  have inSet : last ∈ set := by
    change last ∈ set.keys
    simp [shape]
  have increasing := set.increasing
  rw [shape, List.pairwise_append] at increasing
  obtain ⟨char, rfl, _⟩ := typed last inSet
  have whole : set.concat = before.flatten ++ [char] := by simp [concat, shape]
  cases blank : Text.isBlank char with
  | false =>
      refine ⟨fun _ => endsVisibly_of_last shape blank, fun _ => typed.readBack_of_trimEnd ?_⟩
      rw [whole, Text.trimEnd_append_visible _ blank]
  | true =>
      refine ⟨fun same => ?_, fun ends => ?_⟩
      · rw [← same, typed.mem_readBack_iff, whole, Text.trimEnd_append_blank _ blank] at inSet
        obtain ⟨other, member, equal⟩ := inSet
        obtain rfl : char = other := by simpa using equal
        obtain ⟨key, listed, inside⟩ := List.mem_flatten.1 ((Text.trimEnd_sublist _).subset member)
        have known : key ∈ set := by
          change key ∈ set.keys
          simp [shape, listed]
        obtain ⟨single, rfl, _⟩ := typed key known
        obtain rfl : char = single := List.mem_singleton.1 inside
        exact absurd (increasing.2.2 _ listed _ (by simp)) (List.lt_irrefl _)
      · have visible := ends char inSet fun key member => last_not_lt shape member
        rw [blank] at visible
        cases visible

/-- The keys of a set survive without its blanks exactly when none of them is a blank. -/
theorem Typed.compacted_eq_iff {set : KeySet} (typed : set.Typed) :
    set.compacted = set ↔ set.Visible := by
  constructor
  · intro same char member
    rw [← same, compacted, typed.mem_ofText_iff (Text.compact_sublist _)] at member
    obtain ⟨other, inside, equal⟩ := member
    obtain rfl : char = other := by simpa using equal
    exact Text.isBlank_of_mem_compact inside
  · intro visible
    have kept : Text.compact set.concat = set.concat :=
      Text.compact_of_visible fun char member => visible char (typed.mem_concat_iff.1 member)
    rw [compacted, kept, typed.ofText_concat]

end KeySet

end FrameScript
