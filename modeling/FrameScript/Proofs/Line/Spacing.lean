import FrameScript.Line
import FrameScript.Proofs.ActionLine.Counted
import Mathlib.Logic.Relation

/-!
# Blanks that do not matter

Blanks may be put into a line and taken out of it.  A lenient reading does not see them wherever
they stand.  The fields of a line do not change as long as the blanks stand at an end of the line or
beside a delimiter, and its fields decide how a delimited line is read and which mark it begins
with, so there the blanks do not matter to anything that reads the line.
-/

namespace FrameScript

namespace Text

/-- The second text is the first with one blank more, at a place that is allowed between what stands
before it and what stands behind it. -/
inductive Widened (allowed : Text → Text → Prop) : Text → Text → Prop where
  | blank (before after : Text) (char : Char) (place : allowed before after)
      (blank : isBlank char = true) : Widened allowed (before ++ after) (before ++ char :: after)

/-- Any place in a text. -/
def anywhere (_before _after : Text) : Prop := True

/-- The two ends of a text and the places beside a separator. -/
def outside (separator : Char) (before after : Text) : Prop :=
  before = [] ∨ after = [] ∨ before.getLast? = some separator ∨ after.head? = some separator

variable {allowed : Text → Text → Prop} {first second : Text} {separator : Char}

theorem Widened.compact_eq (widened : Widened allowed first second) :
    compact second = compact first := by
  obtain ⟨before, after, char, _, blank⟩ := widened
  rw [compact_append, compact_cons, if_pos blank, compact_append]

theorem trim_cons_blank {char : Char} (blank : isBlank char = true) (text : Text) :
    trim (char :: text) = trim text := by
  rw [trim, trimStart_cons, if_pos blank, trim]

theorem trim_append_blank {char : Char} (blank : isBlank char = true) (text : Text) :
    trim (text ++ [char]) = trim text := by
  rw [← trimStart_trimEnd, trimEnd_append_blank text blank, trimStart_trimEnd]

/-- A blank at an end of a text or beside a separator belongs to an end of a part, where it is
trimmed away. -/
theorem Widened.map_trim_splitOn_eq (visible : isBlank separator = false)
    (widened : Widened (outside separator) first second) :
    (second.splitOn separator).map trim = (first.splitOn separator).map trim := by
  obtain ⟨before, after, char, place, blank⟩ := widened
  have atStart (text : Text) :
      ((char :: text).splitOn separator).map trim = (text.splitOn separator).map trim := by
    rw [← map_trim_splitOn_trim visible, trim_cons_blank blank, map_trim_splitOn_trim visible]
  have atEnd (text : Text) :
      ((text ++ [char]).splitOn separator).map trim = (text.splitOn separator).map trim := by
    rw [← map_trim_splitOn_trim visible, trim_append_blank blank, map_trim_splitOn_trim visible]
  rcases place with rfl | rfl | behind | ahead
  · exact atStart after
  · rw [List.append_nil]
    exact atEnd before
  · obtain ⟨front, rfl⟩ := List.getLast?_eq_some_iff.1 behind
    rw [List.append_assoc, List.append_assoc, List.singleton_append, List.singleton_append,
      List.splitOn_append_cons_self, List.splitOn_append_cons_self, List.map_append,
      List.map_append, atStart]
  · obtain ⟨back, rfl⟩ := List.head?_eq_some_iff.1 ahead
    have regrouped : before ++ char :: separator :: back =
        (before ++ [char]) ++ separator :: back := by
      simp
    rw [regrouped, List.splitOn_append_cons_self, List.splitOn_append_cons_self, List.map_append,
      List.map_append, atEnd]

/-- Texts that become the same when blanks are put in and taken out at allowed places. -/
def Respaced (allowed : Text → Text → Prop) : Text → Text → Prop :=
  Relation.EqvGen (Widened allowed)

/-- What one blank does not change is not changed by any number of them. -/
theorem Respaced.eq_of_widened {α : Type} {view : Text → α}
    (respaced : Respaced allowed first second)
    (kept : ∀ {text other}, Widened allowed text other → view other = view text) :
    view second = view first := by
  induction respaced with
  | rel text other widened => exact kept widened
  | refl text => rfl
  | symm text other _ ih => exact ih.symm
  | trans text middle other _ _ earlier later => exact later.trans earlier

theorem Respaced.compact_eq (respaced : Respaced allowed first second) :
    compact second = compact first :=
  respaced.eq_of_widened fun widened => widened.compact_eq

end Text

open ActionLine (delimiter)

namespace Delimited

theorem fieldsOf_of_respaced {text other : Text}
    (respaced : Text.Respaced (Text.outside delimiter) text other) :
    fieldsOf other = fieldsOf text := by
  refine respaced.eq_of_widened fun widened => ?_
  rw [fieldsOf_eq, fieldsOf_eq, widened.map_trim_splitOn_eq (by decide)]

/-- A delimited line is read from its fields. -/
theorem read_of_fieldsOf (tolerant : Bool) {text other : Text}
    (same : fieldsOf other = fieldsOf text) : read tolerant other = read tolerant text := by
  rw [read, read, same]

end Delimited

namespace Text

theorem trimEnd_begins (text : Text) : trimEnd text <+: text := by
  have backwards := List.dropWhile_suffix isBlank (l := text.reverse)
  rwa [← List.reverse_prefix, List.reverse_reverse] at backwards

theorem trimEnd_append {start : Text} (visible : ∀ char ∈ start, isBlank char = false)
    (rest : Text) : trimEnd (start ++ rest) = start ++ trimEnd rest := by
  induction start with
  | nil => rfl
  | cons first more ih =>
      rw [List.cons_append, trimEnd_cons_visible (visible first (by simp)),
        ih fun char member => visible char (by simp [member]), List.cons_append]

/-- A text without blanks and separators begins a line exactly when it begins its first field. -/
theorem prefix_trim_iff {mark : Text} (visible : ∀ char ∈ mark, isBlank char = false)
    (undivided : separator ∉ mark) (text : Text) :
    mark <+: trim text ↔ mark <+: trim ((trim text).takeWhile fun char => char != separator) := by
  rcases trim_cases text with ⟨vacant, _⟩ | ⟨first, rest, here, shape, _⟩
  · rw [vacant]
    rfl
  rw [shape]
  constructor
  · rintro ⟨tail, whole⟩
    have inside : ∀ char ∈ mark, (char != separator) = true := by
      intro char member
      rw [bne_iff_ne]
      rintro rfl
      exact undivided member
    rw [← whole, List.takeWhile_append_of_pos inside]
    cases mark with
    | nil => exact List.nil_prefix
    | cons head list =>
        rw [List.cons_append, trim_cons_visible (visible head (by simp)),
          trimEnd_append fun char member => visible char (by simp [member])]
        exact List.cons_prefix_cons.2 ⟨rfl, List.prefix_append list _⟩
  · intro begins
    refine begins.trans ?_
    by_cases divides : first = separator
    · rw [List.takeWhile_cons, if_neg (by simp [divides])]
      exact List.nil_prefix
    · rw [List.takeWhile_cons, if_pos (by simp [divides]), trim_cons_visible here]
      refine List.cons_prefix_cons.2 ⟨rfl, (trimEnd_begins _).trans ?_⟩
      exact List.takeWhile_prefix _

end Text

namespace Delimited

/-- A line is vacant exactly when it has a single field and that is vacant. -/
theorem fieldsOf_eq_vacant_iff {text : Text} : fieldsOf text = [[]] ↔ Text.trim text = [] := by
  constructor
  · intro single
    have joined : [delimiter].intercalate ((Text.trim text).splitOn delimiter) = Text.trim text :=
      List.intercalate_splitOn delimiter
    rw [fieldsOf, List.map_eq_singleton_iff] at single
    obtain ⟨part, split, vacant⟩ := single
    rw [split, List.intercalate_singleton] at joined
    rwa [joined, Text.trim_trim] at vacant
  · intro vacant
    rw [fieldsOf, vacant]
    rfl

end Delimited

namespace LineKind

theorem forall_mem_commentMark {p : Char → Prop} (holds : p '#') : ∀ char ∈ commentMark, p char :=
  List.forall_mem_singleton.2 holds

theorem forall_mem_breakpointMark {p : Char → Prop} (holds : p '*') :
    ∀ char ∈ breakpointMark, p char := by
  intro char member
  rwa [List.eq_of_mem_replicate (show char ∈ List.replicate 3 '*' from member)]

/-- The mark of a line is told by its fields. -/
theorem marked?_eq (text : Text) :
    marked? text =
      if Delimited.fieldsOf text = [[]] then some .empty
      else if commentMark.isPrefixOf ((Delimited.fieldsOf text).headD []) then some .comment
      else if breakpointMark.isPrefixOf ((Delimited.fieldsOf text).headD []) then some .breakpoint
      else none := by
  have begins (mark : Text) (visible : ∀ char ∈ mark, Text.isBlank char = false)
      (undivided : delimiter ∉ mark) :
      mark.isPrefixOf (Text.trim text) = true ↔
        mark.isPrefixOf ((Delimited.fieldsOf text).headD []) = true := by
    rw [List.isPrefixOf_iff_prefix, List.isPrefixOf_iff_prefix, Delimited.headD_fieldsOf,
      Delimited.countField]
    exact Text.prefix_trim_iff visible undivided text
  simp only [marked?, List.isEmpty_iff, Delimited.fieldsOf_eq_vacant_iff,
    begins commentMark (forall_mem_commentMark (by decide)) (by decide),
    begins breakpointMark (forall_mem_breakpointMark (by decide)) (by decide)]

end LineKind

/-! ## Readings -/

/-- Blanks do not matter to a lenient reading wherever they are put in or taken out.  At the ends of
a line and beside a delimiter they do not matter to a delimited reading either, nor to the two
readings in turn, nor to the kind of the line. -/
theorem read_of_respaced (tolerant : Bool) (text other : Text) :
    (Text.Respaced Text.anywhere text other →
      Lenient.read tolerant other = Lenient.read tolerant text) ∧
    (Text.Respaced (Text.outside delimiter) text other →
      Delimited.read tolerant other = Delimited.read tolerant text ∧
        ActionLine.read tolerant other = ActionLine.read tolerant text ∧
        LineKind.of other = LineKind.of text) := by
  have lenient {allowed : Text → Text → Prop} (respaced : Text.Respaced allowed text other)
      (tolerant : Bool) : Lenient.read tolerant other = Lenient.read tolerant text := by
    rw [Lenient.read, Lenient.read, respaced.compact_eq]
  refine ⟨fun respaced => lenient respaced tolerant, fun respaced => ?_⟩
  have fields := Delimited.fieldsOf_of_respaced respaced
  have inTurn (tolerant : Bool) :
      ActionLine.read tolerant other = ActionLine.read tolerant text := by
    rw [ActionLine.read, ActionLine.read, Delimited.read_of_fieldsOf tolerant fields,
      lenient respaced tolerant]
  refine ⟨Delimited.read_of_fieldsOf tolerant fields, inTurn tolerant, ?_⟩
  rw [LineKind.of, LineKind.of, LineKind.marked?_eq, LineKind.marked?_eq, fields, inTurn true]

/-- A blank inside of a number, and one taken from the front of a line and put behind its count. -/
theorem read_of_respaced_number :
    Lenient.read false ['1', 'F', '4', '\u2003', '5'] = Lenient.read false ['1', 'F', '4', '5'] ∧
      Delimited.read false ['7', '\u00A0', ',', 'R'] = Delimited.read false [' ', '7', ',', 'R'] ∧
      LineKind.of ['7', '\u00A0', ',', 'R'] = LineKind.of [' ', '7', ',', 'R'] := by
  have inside : Text.Respaced Text.anywhere ['1', 'F', '4', '5'] ['1', 'F', '4', '\u2003', '5'] :=
    .rel _ _ (.blank ['1', 'F', '4'] ['5'] '\u2003' trivial (by decide))
  have taken : Text.Widened (Text.outside delimiter) ['7', ',', 'R'] [' ', '7', ',', 'R'] :=
    .blank [] ['7', ',', 'R'] ' ' (Or.inl rfl) (by decide)
  have put : Text.Widened (Text.outside delimiter) ['7', ',', 'R'] ['7', '\u00A0', ',', 'R'] :=
    .blank ['7'] [',', 'R'] '\u00A0' (Or.inr (Or.inr (Or.inr rfl))) (by decide)
  have moved : Text.Respaced (Text.outside delimiter) [' ', '7', ',', 'R']
      ['7', '\u00A0', ',', 'R'] :=
    .trans _ _ _ (.symm _ _ (.rel _ _ taken)) (.rel _ _ put)
  obtain ⟨delimited, _, kind⟩ := (read_of_respaced false _ _).2 moved
  exact ⟨(read_of_respaced false _ _).1 inside, delimited, kind⟩

end FrameScript
