import FrameScript.Proofs.ActionLine.Delimited
import FrameScript.Proofs.ActionLine.Lenient

/-!
# Canonical texts

The canonical text of a line, seen from its two readers.  Its fields can be told apart again, each
of them begins with the letter of its tag, and holding one tag after the other gives the inputs of
the line that are written at all: a restricted direction only with its opener, keys only with
theirs.  For a line that was read this is the line itself, apart from its numbers and from keys that
are lost as blanks.
-/

namespace FrameScript

/-- The tag by which or behind which an input is written. -/
def Input.opener : Input → Tag
  | .tag top => top
  | .restricted restriction _ => .only restriction

namespace Held

theorem contains_foldl_insert (inputs : List Input) (held : Held) (input : Input) :
    (inputs.foldl insert held).contains input = true ↔
      held.contains input = true ∨ input ∈ inputs := by
  induction inputs generalizing held with
  | nil => simp
  | cons first rest ih =>
      rw [List.foldl_cons, ih, contains_insert_iff, List.mem_cons, or_assoc]

theorem named_foldl_insert (inputs : List Input) {held : Held} (named : held.Named) :
    (inputs.foldl insert held).Named := by
  induction inputs generalizing held with
  | nil => exact named
  | cons first rest ih => exact ih (named.insert first)

/-- The inputs of a set that a line writes. -/
def written (held : Held) : Held :=
  (Input.all.filter fun input =>
    held.contains input && held.contains (.tag input.opener)).foldl insert ∅

theorem contains_written (held : Held) (input : Input) :
    held.written.contains input = true ↔
      held.contains input = true ∧ held.contains (.tag input.opener) = true := by
  rw [written, contains_foldl_insert, List.mem_filter, Bool.and_eq_true, contains_empty]
  simp [Input.mem_all]

theorem named_written (held : Held) : held.written.Named := named_foldl_insert _ named_empty

end Held

namespace ActionLine

/-- The list behind a tag, with the given text for the keys. -/
def tagList (line : ActionLine) (keys : Text) : Tag → Text
  | .only restriction =>
      (line.held.restricted restriction).map fun direction => (Tag.direction direction).letter
  | .keys => keys
  | _ => []

theorem tagField_eq (line : ActionLine) (tag : Tag) :
    line.tagField tag = tag.letter :: line.tagList line.keys.concat tag := by
  cases tag with
  | direction _ => rfl
  | button _ => rfl
  | only _ => rfl
  | keys => rfl
  | feather => rfl

/-- The part of a line that its tags write, with the given keys. -/
def core (line : ActionLine) (keys : KeySet) : ActionLine where
  frames := line.frames
  held := line.held.written
  keys := if line.held.contains (.tag .keys) then keys else ∅

/-- Holds a tag together with its list in another line. -/
def holdFrom (line : ActionLine) (keys : Text) (start : ActionLine) (tag : Tag) : ActionLine :=
  Delimited.holdTag start tag (line.tagList keys tag)

theorem holdRestricted_letter (restriction : Restriction) (start : ActionLine)
    (direction : Direction) :
    Delimited.holdRestricted restriction start (Tag.direction direction).letter =
      start.hold (.restricted restriction direction) := by
  rw [Delimited.holdRestricted, Tag.ofChar?_letter]
  rfl

theorem foldl_holdRestricted (restriction : Restriction) (directions : List Direction)
    (start : ActionLine) :
    (directions.map fun direction => (Tag.direction direction).letter).foldl
        (Delimited.holdRestricted restriction) start =
      { start with
        held := (directions.map (Input.restricted restriction)).foldl Held.insert start.held } := by
  induction directions generalizing start with
  | nil => rfl
  | cons first rest ih =>
      simp only [List.map_cons, List.foldl_cons]
      rw [holdRestricted_letter, ih]
      rfl

/-- What holding a tag with its list adds. -/
theorem holdFrom_held (line : ActionLine) (keys : Text) (start : ActionLine) (tag : Tag) :
    (line.holdFrom keys start tag).held =
      (match tag with
        | .only restriction =>
            (line.held.restricted restriction).map (Input.restricted restriction)
        | _ => []).foldl Held.insert (start.held.insert (.tag tag)) := by
  cases tag with
  | only restriction =>
      rw [holdFrom, Delimited.holdTag, tagList, foldl_holdRestricted]
      rfl
  | direction _ => rfl
  | button _ => rfl
  | keys => rfl
  | feather => rfl

theorem contains_holdFrom (line : ActionLine) (keys : Text) (start : ActionLine) (tag : Tag)
    (input : Input) :
    (line.holdFrom keys start tag).held.contains input = true ↔
      start.held.contains input = true ∨
        input.opener = tag ∧ (input = .tag tag ∨ line.held.contains input = true) := by
  rw [holdFrom_held, Held.contains_foldl_insert, Held.contains_insert_iff, or_assoc]
  refine or_congr_right ?_
  constructor
  · rintro (rfl | member)
    · exact ⟨rfl, Or.inl rfl⟩
    · cases tag with
      | only restriction =>
          obtain ⟨direction, listed, rfl⟩ := List.mem_map.1 member
          exact ⟨rfl, Or.inr (Held.mem_restricted.1 listed)⟩
      | direction _ => cases member
      | button _ => cases member
      | keys => cases member
      | feather => cases member
  · rintro ⟨rfl, same | held⟩
    · exact Or.inl same
    · cases input with
      | tag tag => exact Or.inl rfl
      | restricted restriction direction =>
          exact Or.inr (List.mem_map.2 ⟨direction, Held.mem_restricted.2 held, rfl⟩)

theorem holdFrom_named (line : ActionLine) (keys : Text) {start : ActionLine}
    (named : start.held.Named) (tag : Tag) : (line.holdFrom keys start tag).held.Named := by
  rw [holdFrom_held]
  exact Held.named_foldl_insert _ (named.insert _)

theorem holdFrom_keys (line : ActionLine) (keys : Text) (start : ActionLine) (tag : Tag) :
    (line.holdFrom keys start tag).keys = if tag = .keys then .ofText keys else start.keys := by
  rw [holdFrom, Delimited.holdTag_eq]
  by_cases keyed : tag = .keys
  · rw [keyed]
    rfl
  · rw [if_neg keyed, if_neg keyed]

/-- What holding one tag after the other comes to: every other part of the line stays, and each
input is held that was held before or is written behind one of the tags. -/
theorem foldl_holdFrom (line : ActionLine) (keys : Text) (tags : List Tag) (start : ActionLine)
    (named : start.held.Named) :
    ∃ held : Held,
      tags.foldl (line.holdFrom keys) start =
        { start with
          held, keys := if Tag.keys ∈ tags then .ofText keys else start.keys } ∧
      held.Named ∧
      ∀ input, held.contains input = true ↔
        start.held.contains input = true ∨
          input.opener ∈ tags ∧ (input = .tag input.opener ∨ line.held.contains input = true) := by
  induction tags generalizing start with
  | nil => exact ⟨start.held, rfl, named, by simp⟩
  | cons first rest ih =>
      obtain ⟨held, shape, heldNamed, members⟩ :=
        ih (line.holdFrom keys start first) (line.holdFrom_named keys named first)
      refine ⟨held, ?_, heldNamed, fun input => ?_⟩
      · have step := Delimited.holdTag_eq start first (line.tagList keys first)
        have keysStep := line.holdFrom_keys keys start first
        rw [List.foldl_cons, shape, keysStep]
        rw [holdFrom, step]
        by_cases later : Tag.keys ∈ rest
        · simp [later]
        · by_cases here : first = .keys
          · simp [here]
          · simp [later, here, Ne.symm here]
      · rw [members, contains_holdFrom, List.mem_cons, or_assoc]
        refine or_congr_right ?_
        constructor
        · rintro (⟨rfl, held⟩ | ⟨member, held⟩)
          · exact ⟨Or.inl rfl, held⟩
          · exact ⟨Or.inr member, held⟩
        · rintro ⟨rfl | member, held⟩
          · exact Or.inl ⟨rfl, held⟩
          · exact Or.inr ⟨member, held⟩

/-- Holding the written tags of a line one after the other gives the part that they write. -/
theorem foldl_holdFrom_tags (line : ActionLine) (keys : Text) :
    line.held.tags.foldl (line.holdFrom keys) { frames := line.frames } =
      line.core (.ofText keys) := by
  obtain ⟨held, shape, named, members⟩ :=
    line.foldl_holdFrom keys line.held.tags { frames := line.frames } Held.named_empty
  have same : held = line.held.written := by
    refine Held.ext_contains named line.held.named_written fun input => ?_
    rw [members, Held.contains_empty, Held.contains_written, Held.mem_tags]
    constructor
    · rintro (none | ⟨opener, same | held⟩)
      · cases none
      · exact ⟨by rw [same]; exact opener, opener⟩
      · exact ⟨held, opener⟩
    · rintro ⟨held, opener⟩
      exact Or.inr ⟨opener, Or.inr held⟩
  rw [shape, same, core]
  simp only [Held.mem_tags]

theorem Consistent.written_held {source : Text} {line : ActionLine}
    (consistent : line.Consistent source) : line.held.written = line.held := by
  refine Held.ext_contains line.held.named_written consistent.named fun input => ?_
  rw [Held.contains_written]
  constructor
  · exact And.left
  · intro held
    refine ⟨held, ?_⟩
    cases input with
    | tag tag => exact held
    | restricted restriction direction => exact consistent.opened restriction direction held

/-- The tags of a line that was read write all of it but its numbers. -/
theorem Consistent.core_eq {source : Text} {line : ActionLine}
    (consistent : line.Consistent source) {keys : Text} (inside : keys.Sublist line.keys.concat) :
    line.core (.ofText keys) =
      { line with angle := none, magnitude := none, keys := .ofText keys } := by
  have kept : (if line.held.contains (.tag .keys) then KeySet.ofText keys else ∅) =
      KeySet.ofText keys := by
    split
    · rfl
    · rename_i closed
      have none : line.keys.keys = [] :=
        List.eq_nil_iff_forall_not_mem.2 fun key member => closed (consistent.keyed key member)
      rw [KeySet.concat, none, List.flatten_nil, List.sublist_nil] at inside
      rw [inside]
      rfl
  rw [core, kept, consistent.written_held]

/-! ## The fields of a canonical text -/

/-- A line whose canonical text can be divided into its fields again. -/
structure Divisible (line : ActionLine) : Prop where
  counted : line.Framed
  typed : line.keys.Typed
  numeral : ∀ text, line.angle = some text ∨ line.magnitude = some text →
    Number.NumeralText text

theorem numeralText_of_numberChars {text : Text}
    (chars : ∀ char ∈ text, Lenient.isNumberChar char = true) : Number.NumeralText text := by
  intro char member
  have number := chars char member
  rw [Lenient.isNumberChar, Bool.or_eq_true, beq_iff_eq] at number
  rcases number with digit | rfl
  · exact Number.isNumeralChar_of_isDigit digit
  · rfl

theorem Parsed.divisible {source : Text} {line : ActionLine} (parsed : line.Parsed source) :
    line.Divisible where
  counted := parsed.counted
  typed := parsed.written.typed
  numeral := by
    rintro text (angle | magnitude)
    · rcases parsed.angle text angle with admitted | kept
      · exact admitted.numeral
      · exact numeralText_of_numberChars kept.2.2
    · rcases parsed.magnitude text magnitude with rfl | admitted | kept
      · exact fun char member => absurd member List.not_mem_nil
      · exact admitted.numeral
      · exact numeralText_of_numberChars kept.2.2

theorem isBlank_letter (tag : Tag) : Text.isBlank tag.letter = false := by
  have range := tag.letter_range
  simp only [Text.isBlank, Bool.or_eq_false_iff, Bool.and_eq_false_iff, decide_eq_false_iff_not,
    beq_eq_false_iff_ne]
  omega

theorem letter_ne_delimiter (tag : Tag) : tag.letter ≠ delimiter := by
  intro same
  have range := tag.letter_range
  rw [same] at range
  exact absurd range.1 (by decide)

theorem frameField_of_natural {line : ActionLine} {frames : Nat} (natural : line.frames = frames) :
    line.frameField = (Text.ofNat frames).leftpad frameColumn ' ' := by
  rw [frameField, natural, Text.ofInt_natCast]

theorem notMem_frameField {line : ActionLine} {frames : Nat} (natural : line.frames = frames) :
    delimiter ∉ line.frameField := by
  rw [frameField_of_natural natural, List.leftpad, List.mem_append]
  rintro (blank | digit)
  · exact absurd (List.eq_of_mem_replicate blank) (by decide)
  · exact absurd (Text.isDigit_of_mem_ofNat digit) (by decide)

/-- The list behind a tag consists of letters and of characters of the keys. -/
theorem mem_tagList {line : ActionLine} {keys : Text} {tag : Tag} {char : Char}
    (member : char ∈ line.tagList keys tag) :
    (∃ other : Tag, char = other.letter) ∨ char ∈ keys := by
  cases tag with
  | only restriction =>
      obtain ⟨direction, _, rfl⟩ := List.mem_map.1 member
      exact Or.inl ⟨.direction direction, rfl⟩
  | keys => exact Or.inr member
  | direction _ => cases member
  | button _ => cases member
  | feather => cases member

theorem notMem_tagField {line : ActionLine} (typed : line.keys.Typed) (tag : Tag) :
    delimiter ∉ line.tagField tag := by
  rw [tagField_eq]
  intro member
  rcases List.mem_cons.1 member with letter | listed
  · exact letter_ne_delimiter tag letter.symm
  · rcases mem_tagList listed with ⟨other, letter⟩ | key
    · exact letter_ne_delimiter other letter.symm
    · exact typed.notMem_concat key

theorem mem_featherFields {line : ActionLine} {field : Text} (member : field ∈ line.featherFields) :
    field = [] ∨ line.angle = some field ∨ line.magnitude = some field := by
  rw [featherFields] at member
  split at member
  · rcases List.mem_cons.1 member with rfl | magnitude
    · cases line.angle with
      | none => exact Or.inl rfl
      | some angle => exact Or.inr (Or.inl rfl)
    · exact Or.inr (Or.inr (Option.mem_toList.1 magnitude))
  · cases member

theorem Divisible.featherFields_numeral {line : ActionLine} (divisible : line.Divisible) :
    ∀ field ∈ line.featherFields, Number.NumeralText field := by
  intro field member
  rcases mem_featherFields member with rfl | given
  · exact fun char member => absurd member List.not_mem_nil
  · exact divisible.numeral field given

theorem Divisible.notMem_fields {line : ActionLine} (divisible : line.Divisible) :
    ∀ field ∈ line.fields, delimiter ∉ field := by
  obtain ⟨frames, natural, _⟩ := divisible.counted
  intro field member
  rcases List.mem_cons.1 member with rfl | later
  · exact notMem_frameField natural
  rcases List.mem_append.1 later with tagged | number
  · obtain ⟨tag, _, rfl⟩ := List.mem_map.1 tagged
    exact notMem_tagField divisible.typed tag
  · intro inside
    exact Number.ne_delimiter_of_isNumeralChar
      (divisible.featherFields_numeral field number _ inside) rfl

/-- The delimiters of a canonical text stand between its fields only. -/
theorem Divisible.splitOn_toText {line : ActionLine} (divisible : line.Divisible) :
    line.toText.splitOn delimiter = line.fields :=
  List.splitOn_intercalate delimiter divisible.notMem_fields (List.cons_ne_nil _ _)

theorem visible_tagList_only (line : ActionLine) (keys : Text) (restriction : Restriction) :
    ∀ char ∈ line.tagList keys (.only restriction), Text.isBlank char = false := by
  intro char member
  obtain ⟨direction, _, rfl⟩ := List.mem_map.1 member
  exact isBlank_letter _

theorem trim_tagField (line : ActionLine) (tag : Tag) :
    Text.trim (line.tagField tag) =
      tag.letter :: line.tagList (Text.trimEnd line.keys.concat) tag := by
  rw [tagField_eq, Text.trim_cons_visible (isBlank_letter tag)]
  cases tag with
  | only restriction =>
      rw [Text.trimEnd_of_visible (visible_tagList_only line _ restriction)]
      rfl
  | keys => rfl
  | direction _ => rfl
  | button _ => rfl
  | feather => rfl

theorem compact_tagField (line : ActionLine) (tag : Tag) :
    Text.compact (line.tagField tag) =
      tag.letter :: line.tagList (Text.compact line.keys.concat) tag := by
  have first : Text.compact (line.tagField tag) =
      tag.letter :: Text.compact (line.tagList line.keys.concat tag) := by
    rw [tagField_eq, Text.compact, List.filter_cons, if_pos (by simp [isBlank_letter])]
    rfl
  rw [first]
  cases tag with
  | only restriction =>
      rw [Text.compact_of_visible (visible_tagList_only line _ restriction)]
      rfl
  | keys => rfl
  | direction _ => rfl
  | button _ => rfl
  | feather => rfl

theorem isBlank_of_mem_ofNat {number : Nat} {digit : Char} (member : digit ∈ Text.ofNat number) :
    Text.isBlank digit = false :=
  Number.isBlank_of_isNumeralChar
    (Number.isNumeralChar_of_isDigit (Text.isDigit_of_mem_ofNat member))

/-- The fields that a delimited reading takes from a canonical text. -/
theorem Divisible.fieldsOf_toText {line : ActionLine} (divisible : line.Divisible) {frames : Nat}
    (natural : line.frames = frames) :
    Delimited.fieldsOf line.toText =
      Text.ofNat frames ::
        (line.held.tags.map (fun tag =>
          tag.letter :: line.tagList (Text.trimEnd line.keys.concat) tag) ++
          line.featherFields) := by
  have numbers : line.featherFields.map Text.trim = line.featherFields := by
    have each : ∀ field ∈ line.featherFields, Text.trim field = id field := fun field member =>
      Text.trim_of_visible (divisible.featherFields_numeral field member).visible
    rw [List.map_congr_left each, List.map_id]
  have tags : (line.held.tags.map line.tagField).map Text.trim =
      line.held.tags.map fun tag =>
        tag.letter :: line.tagList (Text.trimEnd line.keys.concat) tag := by
    rw [List.map_map]
    exact List.map_congr_left fun tag _ => line.trim_tagField tag
  rw [Delimited.fieldsOf_eq, divisible.splitOn_toText, fields, List.map_cons, List.map_append,
    tags, numbers, frameField_of_natural natural, Text.trim_leftpad,
    Text.trim_of_visible fun char => isBlank_of_mem_ofNat]

theorem intercalate_delimiter (first : Text) (rest : List Text) :
    [delimiter].intercalate (first :: rest) =
      first ++ rest.flatMap fun field => delimiter :: field := by
  induction rest generalizing first with
  | nil => simp
  | cons second rest ih => rw [List.intercalate_cons_cons, ih, List.flatMap_cons]; simp

theorem compact_flatMap_delimiter (fields : List Text) :
    Text.compact (fields.flatMap fun field => delimiter :: field) =
      (fields.map Text.compact).flatMap fun field => delimiter :: field := by
  induction fields with
  | nil => rfl
  | cons first rest ih =>
      rw [List.flatMap_cons, Text.compact_append, ih, List.map_cons, List.flatMap_cons]
      rfl

/-- The characters that a lenient reading takes from a canonical text. -/
theorem Divisible.compact_toText {line : ActionLine} (divisible : line.Divisible) {frames : Nat}
    (natural : line.frames = frames) :
    Text.compact line.toText =
      Text.ofNat frames ++
        ((line.held.tags.map fun tag =>
          tag.letter :: line.tagList (Text.compact line.keys.concat) tag) ++
          line.featherFields).flatMap fun field => delimiter :: field := by
  have numbers : line.featherFields.map Text.compact = line.featherFields := by
    have each : ∀ field ∈ line.featherFields, Text.compact field = id field := fun field member =>
      Text.compact_of_visible (divisible.featherFields_numeral field member).visible
    rw [List.map_congr_left each, List.map_id]
  have tags : (line.held.tags.map line.tagField).map Text.compact =
      line.held.tags.map fun tag =>
        tag.letter :: line.tagList (Text.compact line.keys.concat) tag := by
    rw [List.map_map]
    exact List.map_congr_left fun tag _ => line.compact_tagField tag
  rw [toText, fields, intercalate_delimiter, Text.compact_append, compact_flatMap_delimiter,
    List.map_append, tags, numbers, frameField_of_natural natural, Text.compact_leftpad,
    Text.compact_of_visible fun char => isBlank_of_mem_ofNat]

end ActionLine

end FrameScript
