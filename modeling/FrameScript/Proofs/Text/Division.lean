import FrameScript.Text.Split

/-!
# Division

A text is divided at the first occurrence of a separator, and what follows that occurrence is
divided in the same way.  There is exactly one such division: no part of it has an occurrence of the
separator, and joining the parts with the separator gives the text back.
-/

namespace FrameScript.Text

/-- The parts of a text between occurrences of a separator.  An occurrence counts if none begins
before it and behind the one that counted last. -/
inductive Divided (separator : Text) : Text → List Text → Prop where
  | whole {text : Text} (absent : ¬separator <:+: text) : Divided separator text [text]
  | cut {part rest : Text} {parts : List Text}
      (first : ¬separator <:+: (part ++ separator).dropLast)
      (later : Divided separator rest parts) :
      Divided separator (part ++ separator ++ rest) (part :: parts)

namespace Divided

variable {separator text : Text} {parts : List Text}

theorem ne_nil (divided : Divided separator text parts) : parts ≠ [] := by
  cases divided <;> exact List.cons_ne_nil _ _

/-- Joining the parts gives the text back. -/
theorem joined (divided : Divided separator text parts) : separator.intercalate parts = text := by
  induction divided with
  | whole absent => exact List.intercalate_singleton
  | cut first later ih =>
      obtain ⟨next, others, shape⟩ := List.exists_cons_of_ne_nil later.ne_nil
      subst shape
      rw [List.intercalate_cons_cons, ih]

/-- No part has an occurrence of the separator. -/
theorem absent (divided : Divided separator text parts) :
    ∀ part ∈ parts, ¬separator <:+: part := by
  induction divided with
  | whole absent =>
      intro part member
      rwa [List.mem_singleton.1 member]
  | @cut part rest parts first later ih =>
      have given : separator ≠ [] := by
        rintro rfl
        exact first List.nil_infix
      intro other member inside
      rcases List.mem_cons.1 member with rfl | behind
      · apply first
        rw [List.dropLast_append_of_ne_nil given]
        exact inside.trans (List.prefix_append other separator.dropLast).isInfix
      · exact ih other behind inside

end Divided

section

variable {separator : Text}

theorem splitSkipping_eq (separator : Text) (skipped : Nat) (text : Text) :
    splitSkipping separator skipped text = divide separator (text.drop skipped) := by
  induction text generalizing skipped with
  | nil => cases skipped <;> rfl
  | cons first rest ih =>
      cases skipped with
      | zero => rfl
      | succ skipped =>
          rw [splitSkipping, List.drop_succ_cons]
          exact ih skipped

theorem divide_of_prefix {first : Char} {more : Text} (rest : Text) :
    divide (first :: more) (first :: more ++ rest) = [] :: divide (first :: more) rest := by
  have begins : (first :: more).isPrefixOf (first :: (more ++ rest)) = true :=
    List.isPrefixOf_iff_prefix.2 (List.prefix_append (first :: more) rest)
  rw [divide, List.cons_append, splitSkipping, if_pos begins, splitSkipping_eq]
  simp

theorem divide_cons {first : Char} {rest part : Text} {parts : List Text}
    (other : ¬separator <+: first :: rest) (later : divide separator rest = part :: parts) :
    divide separator (first :: rest) = (first :: part) :: parts := by
  have differs : ¬separator.isPrefixOf (first :: rest) = true := fun begins =>
    other (List.isPrefixOf_iff_prefix.1 begins)
  rw [divide] at later
  rw [divide, splitSkipping, if_neg differs, later]

theorem divide_of_absent {text : Text} (absent : ¬separator <:+: text) :
    divide separator text = [text] := by
  induction text with
  | nil => rfl
  | cons first rest ih =>
      rw [List.infix_cons_iff, not_or] at absent
      exact divide_cons absent.1 (ih absent.2)

/-- What begins before an occurrence of the separator begins with the first character in front of
it, or further behind. -/
theorem infix_dropLast_cons_iff (given : separator ≠ []) (head : Char) (part rest : Text) :
    separator <:+: (head :: part ++ separator).dropLast ↔
      separator <+: head :: (part ++ separator ++ rest) ∨
        separator <:+: (part ++ separator).dropLast := by
  have shape : (head :: part ++ separator).dropLast = head :: (part ++ separator).dropLast :=
    List.dropLast_cons_of_ne_nil (by simp [given])
  have inside : (head :: part ++ separator).dropLast <+: head :: (part ++ separator ++ rest) :=
    (List.dropLast_prefix _).trans (List.prefix_append (head :: part ++ separator) rest)
  rw [shape, List.infix_cons_iff, ← shape]
  refine or_congr_left ⟨fun begins => begins.trans inside, fun begins => ?_⟩
  exact List.prefix_of_prefix_length_le begins inside (by simp)

/-- The first part ends at an occurrence of the separator before which none begins. -/
theorem divide_of_cut (given : separator ≠ []) {part : Text}
    (first : ¬separator <:+: (part ++ separator).dropLast) (rest : Text) :
    divide separator (part ++ separator ++ rest) = part :: divide separator rest := by
  induction part with
  | nil =>
      obtain ⟨head, more, rfl⟩ := List.exists_cons_of_ne_nil given
      exact divide_of_prefix rest
  | cons head part ih =>
      rw [infix_dropLast_cons_iff given head part rest, not_or] at first
      exact divide_cons first.1 (ih first.2)

/-- An occurrence begins with the first character of the separator, so there is none that begins
among other characters. -/
theorem not_infix_dropLast {first : Char} {more part : Text} (absent : first ∉ part) :
    ¬first :: more <:+: (part ++ first :: more).dropLast := by
  induction part with
  | nil =>
      intro inside
      have shorter := inside.length_le
      rw [List.nil_append, List.length_dropLast, List.length_cons] at shorter
      omega
  | cons head part ih =>
      rw [infix_dropLast_cons_iff (List.cons_ne_nil first more) head part [], not_or]
      constructor
      · rintro ⟨behind, same⟩
        exact absent (by simp [(List.cons.inj same).1])
      · exact ih fun member => absent (by simp [member])

/-- Of the occurrences of a separator one is the first. -/
theorem exists_cut (given : separator ≠ []) {text : Text} (present : separator <:+: text) :
    ∃ part rest, text = part ++ separator ++ rest ∧
      ¬separator <:+: (part ++ separator).dropLast := by
  induction text with
  | nil => exact absurd (List.infix_nil.1 present) given
  | cons first rest ih =>
      by_cases begins : separator <+: first :: rest
      · obtain ⟨behind, shape⟩ := begins
        obtain ⟨head, more, rfl⟩ := List.exists_cons_of_ne_nil given
        exact ⟨[], behind, shape.symm, not_infix_dropLast List.not_mem_nil⟩
      · obtain ⟨part, behind, rfl, leftmost⟩ :=
          ih ((List.infix_cons_iff.1 present).resolve_left begins)
        refine ⟨first :: part, behind, rfl, ?_⟩
        rw [infix_dropLast_cons_iff given first part behind, not_or]
        exact ⟨begins, leftmost⟩

end

/-- Dividing from left to right is the only division of a text. -/
theorem divided_iff {separator : Text} (given : separator ≠ []) {text : Text} {parts : List Text} :
    Divided separator text parts ↔ divide separator text = parts := by
  constructor
  · intro divided
    induction divided with
    | whole absent => exact divide_of_absent absent
    | cut first later ih => rw [divide_of_cut given first, ih]
  · rintro rfl
    induction length : text.length using Nat.strongRecOn generalizing text with
    | ind count ih =>
        by_cases present : separator <:+: text
        · obtain ⟨part, rest, rfl, first⟩ := exists_cut given present
          rw [divide_of_cut given first]
          refine .cut first (ih rest.length ?_ rfl)
          have positive := List.length_pos_iff.2 given
          rw [← length, List.length_append, List.length_append]
          omega
        · rw [divide_of_absent present]
          exact .whole present

end FrameScript.Text
