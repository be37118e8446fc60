import FrameScript.Proofs.ActionLine.Plain

/-!
# Lines whose delimiters may be missing

A frame count and plain fields without a feather are read alike field by field and character by
character.  A lenient reading does not even need the delimiters: only the one behind a field that
opens a list has to stay, because it ends the list.
-/

namespace FrameScript

open ActionLine (delimiter)
open Delimited (Closed attached fieldsOf holdField opensKeys)

/-- A line without numbers is finished as it is. -/
theorem Lenient.finish_of_unnumbered {tolerant : Bool} {scan : Scan} (started : scan.mode ≠ .frames)
    (numbers : scan.line.numbers = (none, none)) : finish tolerant scan = .ok scan.line := by
  obtain ⟨mode, taken, frames, held, angle, magnitude, keys⟩ := scan
  obtain ⟨rfl, rfl⟩ := Prod.mk.inj numbers
  exact finish_of_settled started rfl rfl

/-- A frame count that can be converted and plain fields behind it, of which one at most opens a
list of keys and one at least is not vacant. -/
structure Listing (count : Text) (fields : List Text) : Prop where
  isDigits : count.isDigits = true
  fits : count.length ≤ digitLimit
  plain : ∀ field ∈ fields, Plain field
  once : fields.countP opensKeys ≤ 1
  given : ∃ field ∈ fields, field ≠ []

namespace Listing

/-- The line that a listing writes: its count, and its fields held one after the other. -/
def line (count : Text) (fields : List Text) : ActionLine :=
  fields.foldl holdField { frames := Number.digitsValue count }

/-- The text of a frame count and of fields with or without the delimiters in front of them. -/
def joined (count : Text) (pieces : List (Bool × Text)) : Text :=
  count ++ pieces.flatMap fun piece => attached piece.1 piece.2

theorem line_numbers (count : Text) (fields : List Text) :
    (line count fields).numbers = (none, none) :=
  Delimited.foldl_holdField_numbers _ fields

variable {count : Text} {fields : List Text} (listing : Listing count fields)

include listing

theorem digits : count ≠ [] ∧ ∀ char ∈ count, char.isDigit = true :=
  Text.isDigits_iff.1 listing.isDigits

theorem visible_count : ∀ char ∈ count, Text.isBlank char = false := fun char member =>
  Number.isBlank_of_isNumeralChar
    (Number.isNumeralChar_of_isDigit (listing.digits.2 char member))

theorem fieldsOf_intercalate :
    fieldsOf ([delimiter].intercalate (count :: fields)) = count :: fields := by
  have undivided : ∀ field ∈ count :: fields, delimiter ∉ field := by
    intro field member
    rcases List.mem_cons.1 member with rfl | inside
    · exact fun divides => absurd (listing.digits.2 delimiter divides) (by decide)
    · exact (listing.plain field inside).undivided
  have visible : ∀ field ∈ count :: fields, Text.trim field = id field := by
    intro field member
    rcases List.mem_cons.1 member with rfl | inside
    · exact Text.trim_of_visible listing.visible_count
    · exact Text.trim_of_visible (listing.plain field inside).visible
  rw [Delimited.fieldsOf_intercalate undivided, List.map_congr_left visible, List.map_id]

theorem read_delimited (tolerant : Bool) :
    Delimited.read tolerant ([delimiter].intercalate (count :: fields)) =
      .ok (line count fields) := by
  have counted : Delimited.countField ([delimiter].intercalate (count :: fields)) = count := by
    rw [← Delimited.headD_fieldsOf, listing.fieldsOf_intercalate, List.headD_cons]
  have featherless : ∀ field ∈ fields, Delimited.opensFeather field = false :=
    fun field member => (listing.plain field member).featherless
  rw [Delimited.read_of_counted (by rw [counted, listing.isDigits])
      (by rw [counted]; exact listing.fits),
    counted, listing.fieldsOf_intercalate, List.tail_cons, Delimited.readFields,
    Delimited.foldlM_featherless tolerant featherless]
  rfl

section

variable {pieces : List (Bool × Text)} (same : pieces.map Prod.snd = fields)

include same

theorem plain_of_mem : ∀ piece ∈ pieces, Plain piece.2 := fun piece member =>
  listing.plain piece.2 (same ▸ List.mem_map_of_mem member)

theorem compact_joined : Text.compact (joined count pieces) = joined count pieces := by
  apply Text.compact_of_visible
  intro char member
  rcases List.mem_append.1 member with inCount | behind
  · exact listing.visible_count char inCount
  obtain ⟨piece, inside, here⟩ := List.mem_flatMap.1 behind
  have visible := (listing.plain_of_mem same piece inside).visible
  rw [attached] at here
  split at here
  · rcases List.mem_cons.1 here with rfl | inField
    · rfl
    · exact visible char inField
  · exact visible char here

theorem countDigits_joined : Lenient.countDigits (joined count pieces) = count := by
  have counts : ∀ char ∈ count, Lenient.isCountChar char = true :=
    fun char member => Lenient.isCountChar_of_isDigit (listing.digits.2 char member)
  have only : count.filter Char.isDigit = count := List.filter_eq_self.2 listing.digits.2
  have vacant : (([] : Text).takeWhile Lenient.isCountChar).filter Char.isDigit = [] := rfl
  have behind := Lenient.filter_isDigit_pieces (listing.plain_of_mem same) vacant
  rw [List.append_nil] at behind
  rw [Lenient.countDigits, Lenient.countPart, listing.compact_joined same, joined,
    List.takeWhile_append_of_pos counts, List.filter_append, only, behind, List.append_nil]

/-- The first field that is not vacant ends the frame count. -/
theorem countPart_joined :
    Lenient.countPart (joined count pieces) ≠ Text.compact (joined count pieces) := by
  intro whole
  obtain ⟨field, member, given⟩ := listing.given
  obtain ⟨head, list, rfl⟩ := List.exists_cons_of_ne_nil given
  have inside : head ∈ joined count pieces := by
    rw [← same] at member
    obtain ⟨piece, inPieces, shape⟩ := List.mem_map.1 member
    refine List.mem_append_right count (List.mem_flatMap.2 ⟨piece, inPieces, ?_⟩)
    rw [attached, shape]
    split <;> simp
  rw [← listing.compact_joined same, ← whole] at inside
  have counts := List.all_eq_true.1 List.all_takeWhile head inside
  rw [(listing.plain _ member).head_not_count head rfl] at counts
  cases counts

theorem read_joined (closed : Closed pieces) (tolerant : Bool) :
    Lenient.read tolerant (joined count pieces) = .ok (line count fields) := by
  have counts : ∀ char ∈ count, Lenient.isCountChar char = true :=
    fun char member => Lenient.isCountChar_of_isDigit (listing.digits.2 char member)
  have once := listing.once
  rw [← same] at once
  have unkeyed : (pieces.map Prod.snd).countP opensKeys ≠ 0 →
      ({ frames := Number.digitsValue count } : ActionLine).keys = ∅ := fun _ => rfl
  obtain ⟨last, ends, scanned⟩ := Lenient.foldlM_pieces (listing.plain_of_mem same) closed once
    (.ofDigits count) Lenient.idle_tag.endsField (fun other => absurd rfl other) unkeyed
  have digits := listing.countDigits_joined same
  have whole := Lenient.foldlM_of_counted (listing.countPart_joined same)
    (by rw [digits]; exact listing.digits.1) (by rw [digits]; exact listing.fits)
  rw [digits, listing.compact_joined same, joined, List.dropWhile_append_of_pos counts,
    Lenient.foldlM_dropWhile, scanned, same] at whole
  rw [Lenient.read, listing.compact_joined same, joined, whole]
  exact Lenient.finish_of_unnumbered ends.1 (line_numbers count fields)

end

end Listing

/-- The two readers read a listing alike, whether invalid numbers are tolerated or not, and a
lenient reading gives the same line when any of the delimiters is missing that does not end a
list. -/
theorem read_alike_of_listing {count : Text} {fields : List Text} (listing : Listing count fields) :
    ∃ line,
      (∀ tolerant,
        Delimited.read tolerant ([delimiter].intercalate (count :: fields)) = .ok line ∧
          Lenient.read tolerant ([delimiter].intercalate (count :: fields)) = .ok line) ∧
      ∀ divided : List Bool, divided.length = fields.length → Closed (divided.zip fields) →
        ∀ tolerant, Lenient.read tolerant (Listing.joined count (divided.zip fields)) =
          .ok line := by
  refine ⟨Listing.line count fields, fun tolerant => ⟨listing.read_delimited tolerant, ?_⟩, ?_⟩
  · have joined : [delimiter].intercalate (count :: fields) =
        Listing.joined count (fields.map (Prod.mk true)) := by
      rw [Listing.joined, Delimited.flatMap_divided, ActionLine.intercalate_delimiter]
    rw [joined]
    exact listing.read_joined (Delimited.map_snd_divided fields) (Delimited.closed_divided fields)
      tolerant
  · intro divided long closed tolerant
    exact listing.read_joined (List.map_snd_zip (Nat.le_of_eq long.symm)) closed tolerant

/-- A listing with a vacant field, an unknown character and both kinds of openers, and the same
without all of its delimiters but the two that end a list. -/
theorem read_alike_of_listing_openers :
    Listing "07".toList [[], ['?'], "aL".toList, "P1".toList, ['j']] ∧
      Lenient.read false "07?aL,P1,j".toList = Delimited.read true "07,,?,aL,P1,j".toList := by
  have unknown : Plain ['?'] := by
    refine .single '?' (by decide) (by decide) (by decide) fun tag writes => ?_
    have missing : Tag.ofChar? '?' = none := by decide
    cases missing.symm.trans writes
  have jump : Plain ['j'] := by
    refine .single 'j' (by decide) (by decide) (by decide) fun tag writes => ?_
    have found : Tag.ofChar? 'j' = some (.button .jump) := by decide
    cases found.symm.trans writes
    rfl
  have directions : Plain "aL".toList :=
    .only 'a' .dashOnly (by decide) ['L'] (List.forall_mem_singleton.2 (by decide))
  have keys : Plain "P1".toList :=
    .keys 'P' (by decide) ['1'] (List.forall_mem_singleton.2 (by decide)) (by decide)
  have listing : Listing "07".toList [[], ['?'], "aL".toList, "P1".toList, ['j']] :=
    { isDigits := by decide
      fits := by decide
      plain := by simpa using ⟨Plain.vacant, unknown, directions, keys, jump⟩
      once := by decide
      given := ⟨['?'], by simp, by simp⟩ }
  obtain ⟨line, whole, part⟩ := read_alike_of_listing listing
  have shortened := part [false, false, false, true, true] rfl (by decide) false
  exact ⟨listing, shortened.trans (whole true).1.symm⟩

end FrameScript
