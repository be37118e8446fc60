import FrameScript.Console

/-!
# Tags of markup

The tags of a text are told piece by piece: a text without opening brackets and backslashes has none
and leaves those behind it alone, and a text that was escaped has none either.  Whether markup is
sound depends on its tags only.
-/

namespace FrameScript

namespace Markup

/-- A text with nothing in it that markup gives a meaning to. -/
def IsPlain (text : Text) : Prop := ∀ char ∈ text, char ≠ '[' ∧ char ≠ Text.backslash

instance (text : Text) : Decidable (IsPlain text) :=
  List.decidableBAll (fun char => char ≠ '[' ∧ char ≠ Text.backslash) text

theorem IsPlain.append {first second : Text} (plain : IsPlain first) (rest : IsPlain second) :
    IsPlain (first ++ second) := by
  intro char member
  rcases List.mem_append.1 member with inside | inside
  · exact plain char inside
  · exact rest char inside

theorem tags_append_of_plain {text : Text} (plain : IsPlain text) (rest : Text) :
    tags 0 (text ++ rest) = tags 0 rest := by
  induction text with
  | nil => rfl
  | cons first others ih =>
      obtain ⟨noBracket, noBackslash⟩ := plain first List.mem_cons_self
      rw [List.cons_append, tags, if_neg noBackslash, if_neg fun tag => noBracket tag.1]
      exact ih fun char member => plain char (List.mem_cons_of_mem _ member)

theorem tags_of_notMem {text : Text} (none : '[' ∉ text) (slashes : Nat) :
    tags slashes text = [] := by
  induction text generalizing slashes with
  | nil => rfl
  | cons first rest ih =>
      obtain ⟨noBracket, later⟩ := List.ne_and_not_mem_of_not_mem_cons none
      rw [tags]
      split
      · exact ih later _
      · rw [if_neg fun tag => noBracket tag.1.symm]
        exact ih later 0

theorem find?_escapeTags (text : Text) (slashes : Nat) :
    ((escapeTags slashes text).find? fun char => char == '[' || char == ']') =
      text.find? fun char => char == '[' || char == ']' := by
  induction text generalizing slashes with
  | nil => rfl
  | cons first rest ih =>
      rw [escapeTags]
      split
      · rename_i backslash
        subst backslash
        exact ih _
      split
      · rename_i tag
        rw [tag.1, List.find?_append, List.find?_eq_none.2]
        · rfl
        · intro char member
          rw [List.eq_of_mem_replicate member]
          decide
      · rw [List.find?_cons, List.find?_cons, ih]

/-- A tag that is escaped cannot be a part of another one. -/
theorem completesTag_escapeTags (text : Text) :
    completesTag (escapeTags 0 text) = completesTag text := by
  cases text with
  | nil => rfl
  | cons first rest =>
      rw [escapeTags]
      split
      · rename_i backslash
        subst backslash
        rfl
      split
      · rename_i tag
        rw [tag.1]
        rfl
      · rw [completesTag, completesTag, find?_escapeTags]

/-- The escapes of a tag and the backslashes before it are an odd number of backslashes. -/
theorem tags_escapeTags (text : Text) (slashes : Nat) :
    tags slashes (escapeTags slashes text) = [] := by
  induction text generalizing slashes with
  | nil => rfl
  | cons first rest ih =>
      have skip (count : Nat) (behind : Text) (before : Nat) :
          tags before (List.replicate count Text.backslash ++ behind) =
            tags (before + count) behind := by
        induction count generalizing before with
        | zero => rfl
        | succ count again =>
            rw [List.replicate_succ, List.cons_append, tags, if_pos rfl, again]
            congr 1
            omega
      rw [escapeTags]
      split
      · rename_i backslash
        rw [tags, if_pos backslash, ih]
      split
      · rename_i tag
        rw [skip, tag.1, tags, if_neg (by decide), if_neg, ih]
        rintro ⟨_, _, even⟩
        omega
      · rename_i noBackslash noTag
        rw [tags, if_neg noBackslash, if_neg, ih]
        rintro ⟨bracket, completes, _⟩
        rw [completesTag_escapeTags] at completes
        exact noTag ⟨bracket, completes⟩

theorem completesTag_concat_backslash (text : Text) :
    completesTag (text ++ [Text.backslash]) = completesTag text := by
  cases text with
  | nil => rfl
  | cons first rest =>
      rw [List.cons_append, completesTag, completesTag, List.find?_append]
      cases rest.find? fun char => char == '[' || char == ']' <;> rfl

theorem tags_concat_backslash {text : Text} {slashes : Nat} (none : tags slashes text = []) :
    tags slashes (text ++ [Text.backslash]) = [] := by
  induction text generalizing slashes with
  | nil => rfl
  | cons first rest ih =>
      rw [List.cons_append, tags]
      rw [tags] at none
      split at none
      · rename_i backslash
        rw [if_pos backslash, ih none]
      split at none
      · cases none
      · rename_i noBackslash noTag
        rw [if_neg noBackslash, completesTag_concat_backslash, if_neg noTag, ih none]

/-- A text that was escaped has no tags. -/
theorem tags_escape (text : Text) : tags 0 (escape text) = [] := by
  rw [escape]
  split
  · exact tags_concat_backslash (tags_escapeTags text 0)
  · exact tags_escapeTags text 0

theorem exists_tags_append_of_notMem {text : Text} (none : '[' ∉ text) (slashes : Nat)
    (rest : Text) : ∃ before, tags slashes (text ++ rest) = tags before rest := by
  induction text generalizing slashes with
  | nil => exact ⟨slashes, rfl⟩
  | cons first others ih =>
      obtain ⟨noBracket, later⟩ := List.ne_and_not_mem_of_not_mem_cons none
      rw [List.cons_append, tags]
      split
      · exact ih later _
      · rw [if_neg fun tag => noBracket tag.1.symm]
        exact ih later 0

end Markup

namespace Styling

open Markup

variable {styling : Styling}

/-- The styles of the tags that the program writes itself. -/
def ownStyles : List Text :=
  ["bold".toList, "bold green".toList, "bold red".toList, "bold yellow".toList, "dim".toList]

/-- A library that has the styles of the program in the form in which the program writes them. -/
def KnowsOwn (styling : Styling) : Prop :=
  ∀ style ∈ ownStyles, styling.form? style = some style ∧ styling.draws style = true

theorem ownStyles_shape : ∀ style ∈ ownStyles,
    Text.trim style = style ∧ style ≠ [] ∧ style.head? ≠ some '/' ∧ style.head? ≠ some '@' := by
  decide

theorem isSound_congr {first second : Text} (same : tags 0 first = tags 0 second) :
    styling.isSound first = styling.isSound second := by
  rw [isSound, isSound, same]

theorem isSound_of_tags_nil {text : Text} (none : tags 0 text = []) :
    styling.isSound text = true := by
  rw [isSound, none]
  rfl

theorem step?_opening {style : Text} (own : style ∈ ownStyles) (knows : styling.KnowsOwn)
    (opened : List Markup.Tag) :
    styling.step? opened ⟨style, none⟩ = some (⟨style, none⟩ :: opened) := by
  obtain ⟨form, _⟩ := knows style own
  obtain ⟨_, _, opens, _⟩ := ownStyles_shape style own
  rw [step?]
  split
  · rename_i name shape
    exact absurd (congrArg List.head? shape) opens
  · rw [form]
    rfl

theorem step?_closing {style : Text} (own : style ∈ ownStyles) (knows : styling.KnowsOwn)
    (opened : List Markup.Tag) :
    styling.step? (⟨style, none⟩ :: opened) ⟨'/' :: style, none⟩ = some opened := by
  obtain ⟨form, drawn⟩ := knows style own
  obtain ⟨trimmed, given, _, noHandler⟩ := ownStyles_shape style own
  have closed : styling.closed? (⟨style, none⟩ :: opened) style = some ⟨style, none⟩ := by
    rw [closed?, trimmed]
    split
    · exact absurd rfl given
    · simp [form]
  have closes : styling.closes ⟨style, none⟩ = true := by
    rw [Styling.closes]
    split
    · rename_i shape
      exact absurd (congrArg List.head? shape) noHandler
    · exact drawn
  change ((styling.closed? (⟨style, none⟩ :: opened) style).filter styling.closes).map _ = _
  rw [closed, Option.filter_some, if_pos closes]
  simp

/-- Markup is sound if the program's own tags are all that it has. -/
theorem isSound_of_tags_pair (style : Text) {text : Text} (own : style ∈ ownStyles)
    (knows : styling.KnowsOwn) (pair : tags 0 text = [⟨style, none⟩, ⟨'/' :: style, none⟩]) :
    styling.isSound text = true := by
  have closed : [⟨'/' :: style, none⟩].foldlM styling.step? [⟨style, none⟩] = some [] := by
    rw [List.foldlM_cons, step?_closing own knows]
    rfl
  have folded :
      [⟨style, none⟩, ⟨'/' :: style, none⟩].foldlM styling.step? [] = some [] := by
    rw [List.foldlM_cons, step?_opening own knows]
    exact closed
  rw [isSound, pair, folded]
  rfl

theorem isSound_of_tags_single {style text : Text} (own : style ∈ ownStyles)
    (knows : styling.KnowsOwn) (single : tags 0 text = [⟨style, none⟩]) :
    styling.isSound text = true := by
  rw [isSound, single, List.foldlM_cons, step?_opening own knows]
  simp [Markup.Tag.style, (knows style own).2]

end Styling

end FrameScript
