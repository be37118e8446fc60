import FrameScript.Proofs.ActionLine.Delimited
import FrameScript.Proofs.ActionLine.Lenient
import Mathlib.Control.Monad.Basic

/-!
# Well-formed lines

The form of every line that either reader can give, told without the text that it was read from: no
unnamed digit among the held inputs, nothing without what opens it, and keys that are single
characters and write themselves.  Each reader promises more about numbers and blanks.  Read field by
field a number is in its range, and a list of keys never consists of blanks; read character by
character no key is a blank, and a number is in its range unless it is none.
-/

namespace FrameScript

open Number (Range)

namespace Number.Range

/-- A text that a range admits is a number in the range. -/
theorem Proper.within_of_admits {range : Range} (proper : range.Proper) {text : Text}
    (admitted : range.Admits text) : range.Within text := by
  refine ⟨Text.trim_of_visible admitted.numeral.visible, ?_⟩
  have ordered := proper.low_le_high
  have clamped := admitted.clampText?_eq
  rw [clampText?] at clamped
  obtain ⟨number, found, shape⟩ := Option.map_eq_some_iff.1 clamped
  refine ⟨number, found, ?_⟩
  have notBound {bound : Double} (finite : bound.IsFinite) (same : plainText bound = text) :
      number.rank = bound.rank := by
    obtain ⟨_, read, foundBound, rank⟩ := read?_plainText finite
    rw [same, found] at foundBound
    cases foundBound
    exact rank
  change range.low.rank ≤ number.rank ∧ number.rank ≤ range.high.rank
  split at shape
  · have same := notBound proper.high_finite shape
    omega
  · rename_i notHigh
    split at shape
    · have same := notBound proper.low_finite shape
      omega
    · rename_i notLow
      rw [Double.lt_iff_rank] at notHigh notLow
      omega

end Number.Range

namespace KeySet

theorem exists_mem_of_ne_empty {set : KeySet} (given : set ≠ ∅) : ∃ key, key ∈ set := by
  obtain ⟨keys, increasing⟩ := set
  cases keys with
  | nil => exact absurd rfl given
  | cons first rest => exact ⟨first, List.mem_cons_self⟩

/-- A set that has a key which is not a blank, if it has a key at all. -/
def ShowsKey (set : KeySet) : Prop :=
  set ≠ ∅ → ∃ char, [char] ∈ set ∧ Text.isBlank char = false

theorem showsKey_empty : ShowsKey ∅ := fun given => absurd rfl given

theorem showsKey_ofText {text : Text}
    (shown : text ≠ [] → ∃ char ∈ text, Text.isBlank char = false) : (ofText text).ShowsKey := by
  intro given
  obtain ⟨char, inside, visible⟩ := shown fun none => given (by rw [none]; rfl)
  refine ⟨keyOf char, mem_ofList.2 (List.mem_map.2 ⟨char, inside, rfl⟩), ?_⟩
  rw [isBlank_keyOf, visible]

end KeySet

/-! ## Lines -/

namespace ActionLine

/-- The form of every line that a reader gives. -/
structure WellFormed (line : ActionLine) : Prop where
  named : line.held.Named
  opened : ∀ restriction direction,
    line.held.contains (.restricted restriction direction) = true →
      line.held.contains (.tag (.only restriction)) = true
  feathered : line.angle ≠ none ∨ line.magnitude ≠ none →
    line.held.contains (.tag .feather) = true
  angled : line.magnitude ≠ none → line.angle ≠ none
  keyed : line.keys ≠ ∅ → line.held.contains (.tag .keys) = true
  typed : line.keys.Typed

theorem Parsed.wellFormed {source : Text} {line : ActionLine} (parsed : line.Parsed source) :
    line.WellFormed where
  named := parsed.named
  opened := parsed.opened
  feathered := parsed.feathered
  angled := parsed.angled
  keyed := by
    intro given
    obtain ⟨key, member⟩ := KeySet.exists_mem_of_ne_empty given
    exact parsed.keyed key member
  typed := parsed.written.typed

end ActionLine

namespace Delimited

open ActionLine

/-- The form of a line that was read field by field. -/
structure WellFormed (line : ActionLine) : Prop extends ActionLine.WellFormed line where
  angle : ∀ text, line.angle = some text → Range.angle.Within text
  magnitude : ∀ text, line.magnitude = some text → text = [] ∨ Range.magnitude.Within text
  shown : line.keys.ShowsKey

/-- What a field can do: it is read as a tag, or it only changes the numbers and what is expected
next. -/
theorem step_cases {tolerant : Bool} {scan next : Scan} {field : Text}
    (taken : step tolerant scan field = .ok next) :
    next = takeTag scan.line field ∨
      ∃ angle magnitude, next.line = { scan.line with angle, magnitude } := by
  have retaken {reason : Rejection}
      (taken : retake tolerant scan.line field reason = .ok next) :
      next = takeTag scan.line field := by
    rw [retake] at taken
    split at taken
    · cases taken
      rfl
    · cases taken
  rw [step] at taken
  split at taken
  · cases taken
    exact Or.inl rfl
  · split at taken
    · cases taken
      exact Or.inr ⟨_, _, rfl⟩
    split at taken
    · cases taken
      exact Or.inr ⟨_, _, rfl⟩
    · exact Or.inl (retaken taken)
  · split at taken
    · cases taken
      exact Or.inr ⟨_, _, rfl⟩
    · exact Or.inl (retaken taken)
  · split at taken
    · cases taken
      exact Or.inr ⟨_, _, rfl⟩
    split at taken
    · cases taken
      exact Or.inr ⟨_, _, rfl⟩
    · exact Or.inl (retaken taken)

/-- The characters behind the first one of a field end in one that is not blank. -/
theorem exists_visible_of_trim {first : Char} {list : Text}
    (trimmed : Text.trim (first :: list) = first :: list) (given : list ≠ []) :
    ∃ char ∈ list, Text.isBlank char = false := by
  obtain ⟨front, last, shape⟩ := (List.eq_nil_or_concat list).resolve_left given
  rw [List.concat_eq_append] at shape
  subst shape
  refine ⟨last, by simp, ?_⟩
  rw [← List.cons_append] at trimmed
  exact Text.isBlank_last_of_trim trimmed

/-- A tag leaves the keys as they are, or it is the opener of their list. -/
theorem showsKey_takeTag {line : ActionLine} (shown : line.keys.ShowsKey) {field : Text}
    (trimmed : Text.trim field = field) : (takeTag line field).line.keys.ShowsKey := by
  cases field with
  | nil => exact shown
  | cons first list =>
      rw [takeTag]
      cases Tag.ofChar? first with
      | none => exact shown
      | some tag =>
          simp only [holdTag_eq]
          split
          · exact KeySet.showsKey_ofText (exists_visible_of_trim trimmed)
          · exact shown

theorem showsKey_step {tolerant : Bool} {scan next : Scan} {field : Text}
    (shown : scan.line.keys.ShowsKey) (trimmed : Text.trim field = field)
    (taken : step tolerant scan field = .ok next) : next.line.keys.ShowsKey := by
  rcases step_cases taken with tagged | ⟨angle, magnitude, numbered⟩
  · rw [tagged]
    exact showsKey_takeTag shown trimmed
  · rw [numbered]
    exact shown

theorem showsKey_of_read {tolerant : Bool} {text : Text} {line : ActionLine}
    (found : read tolerant text = .ok line) : line.keys.ShowsKey := by
  obtain ⟨count, _, ran⟩ := readFields_of_read found
  obtain ⟨expected, scanned⟩ := exists_scan_of_readFields ran
  refine foldlM_preserves (fun scan : Scan => scan.line.keys.ShowsKey) ?_
    KeySet.showsKey_empty scanned
  intro field member scan next shown taken
  exact showsKey_step shown (trim_of_mem_fieldsOf (List.mem_of_mem_tail member)) taken

theorem wellFormed_of_read {tolerant : Bool} {text : Text} {line : ActionLine}
    (found : read tolerant text = .ok line) : WellFormed line := by
  obtain ⟨parsed, inRange⟩ := parsed_of_read found
  refine ⟨parsed.wellFormed, ?_, ?_, showsKey_of_read found⟩
  · intro number given
    exact Range.proper_angle.within_of_admits (inRange.angle number given)
  · intro number given
    exact (inRange.magnitude number given).imp_right Range.proper_magnitude.within_of_admits

end Delimited

namespace Lenient

open ActionLine

/-- The form of a line that was read character by character. -/
structure WellFormed (tolerant : Bool) (line : ActionLine) : Prop
    extends ActionLine.WellFormed line where
  angle : ∀ text, line.angle = some text →
    Range.angle.Within text ∨ tolerant = true ∧ Kept text
  magnitude : ∀ text, line.magnitude = some text →
    text ≠ [] ∧ (Range.magnitude.Within text ∨ tolerant = true ∧ Kept text)
  visible : line.keys.Visible

theorem wellFormed_of_read {tolerant : Bool} {text : Text} {line : ActionLine}
    (found : read tolerant text = .ok line) : WellFormed tolerant line := by
  obtain ⟨scan, _, _, between, finished⟩ := exists_scan_of_read found
  obtain ⟨angles, magnitudes⟩ := between.finish_numbers finished
  refine ⟨(parsed_of_read found).1.wellFormed, ?_, ?_, visible_of_read found⟩
  · intro number given
    exact (angles number given).imp_left Range.proper_angle.within_of_admits
  · intro number given
    rcases magnitudes number given with admitted | ⟨tolerated, kept⟩
    · exact ⟨admitted.ne_nil, Or.inl (Range.proper_magnitude.within_of_admits admitted)⟩
    · exact ⟨kept.1, Or.inr ⟨tolerated, kept⟩⟩

end Lenient

/-- Every line that a reader gives has the form that the reader promises. -/
theorem ActionLine.wellFormed_of_readers (tolerant : Bool) (text : Text) (line : ActionLine) :
    (Delimited.read tolerant text = .ok line → Delimited.WellFormed line) ∧
      (Lenient.read tolerant text = .ok line → Lenient.WellFormed tolerant line) :=
  ⟨Delimited.wellFormed_of_read, Lenient.wellFormed_of_read⟩

/-- A list of keys with a blank in it and numbers beyond their ranges, and a text that is no number
in front of tags without delimiters. -/
theorem ActionLine.wellFormed_of_readers_numbers :
    (∃ line, Delimited.read false "7,Pa b,AL,F,-5,2".toList = .ok line ∧
        Delimited.WellFormed line ∧ line.magnitude = some "1".toList) ∧
      ∃ line, Lenient.read true "7F1.2.3ALPa b".toList = .ok line ∧
        Lenient.WellFormed true line ∧ line.angle = some "1.2.3".toList := by
  have delimited : Delimited.read false "7,Pa b,AL,F,-5,2".toList =
      .ok ⟨7, ⟨83952128⟩, some "0".toList, some "1".toList,
        ⟨[[' '], ['A'], ['B']], by decide⟩⟩ := by
    decide +kernel
  have lenient : Lenient.read true "7F1.2.3ALPa b".toList =
      .ok ⟨7, ⟨83952128⟩, some "1.2.3".toList, none, ⟨[['A'], ['B']], by decide⟩⟩ := by
    decide +kernel
  exact ⟨⟨_, delimited, (wellFormed_of_readers false _ _).1 delimited, rfl⟩,
    ⟨_, lenient, (wellFormed_of_readers true _ _).2 lenient, rfl⟩⟩

end FrameScript
