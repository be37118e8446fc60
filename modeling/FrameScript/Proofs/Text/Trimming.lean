import FrameScript.Text.Blank

/-!
# Trimming

How trimming acts on the characters of a text one by one, and how it gets along with splitting at a
character that is not blank: the blanks at the two ends of a text are the blanks at the outer ends
of its first and last part, so trimming the parts makes trimming the whole superfluous.
-/

namespace FrameScript.Text

@[simp] theorem trimEnd_nil : trimEnd [] = [] := rfl

theorem trimStart_cons (first : Char) (rest : Text) :
    trimStart (first :: rest) = if isBlank first then trimStart rest else first :: rest := by
  simp only [trimStart, List.dropWhile_cons]

/-- A blank at the front goes away with the blanks behind it, if there is nothing else. -/
theorem trimEnd_cons (first : Char) (rest : Text) :
    trimEnd (first :: rest) =
      if isBlank first ∧ trimEnd rest = [] then [] else first :: trimEnd rest := by
  simp only [trimEnd, List.reverse_cons, List.dropWhile_append, List.reverse_eq_nil_iff,
    List.isEmpty_iff]
  by_cases vacant : rest.reverse.dropWhile isBlank = []
  · cases blank : isBlank first <;> simp [vacant, blank]
  · simp [vacant]

theorem trimStart_cons_visible {first : Char} {rest : Text} (visible : isBlank first = false) :
    trimStart (first :: rest) = first :: rest := by
  simp [trimStart_cons, visible]

theorem trimEnd_cons_visible {first : Char} {rest : Text} (visible : isBlank first = false) :
    trimEnd (first :: rest) = first :: trimEnd rest := by
  simp [trimEnd_cons, visible]

theorem trim_cons_visible {first : Char} {rest : Text} (visible : isBlank first = false) :
    trim (first :: rest) = first :: trimEnd rest := by
  rw [trim, trimStart_cons_visible visible, trimEnd_cons_visible visible]

theorem trimEnd_append_visible (start : Text) {last : Char} (visible : isBlank last = false) :
    trimEnd (start ++ [last]) = start ++ [last] := by
  simp [trimEnd, visible]

theorem trimEnd_append_blank (start : Text) {last : Char} (blank : isBlank last = true) :
    trimEnd (start ++ [last]) = trimEnd start := by
  simp [trimEnd, blank]

theorem trimEnd_sublist (text : Text) : (trimEnd text).Sublist text := by
  have backwards := (List.dropWhile_sublist isBlank (l := text.reverse)).reverse
  rwa [List.reverse_reverse] at backwards

theorem trim_sublist (text : Text) : (trim text).Sublist text :=
  (trimEnd_sublist _).trans (List.dropWhile_sublist _)

theorem compact_sublist (text : Text) : (compact text).Sublist text := List.filter_sublist

theorem isBlank_of_mem_compact {text : Text} {char : Char} (member : char ∈ compact text) :
    isBlank char = false := by
  simpa using (List.mem_filter.1 member).2

/-- The two ends can be trimmed in either order. -/
theorem trimStart_trimEnd (text : Text) : trimStart (trimEnd text) = trim text := by
  rw [trim]
  induction text with
  | nil => rfl
  | cons first rest ih =>
      cases blank : isBlank first with
      | false =>
          rw [trimStart_cons_visible blank, trimEnd_cons_visible blank,
            trimStart_cons_visible blank]
      | true =>
          rw [trimStart_cons, if_pos blank, ← ih, trimEnd_cons]
          by_cases vacant : trimEnd rest = []
          · simp [blank, vacant]
          · simp [vacant, trimStart_cons, blank]

theorem trimStart_trimStart (text : Text) : trimStart (trimStart text) = trimStart text := by
  induction text with
  | nil => rfl
  | cons first rest ih =>
      cases blank : isBlank first <;> simp [trimStart_cons, blank, ih]

theorem trimEnd_trimEnd (text : Text) : trimEnd (trimEnd text) = trimEnd text := by
  induction text with
  | nil => rfl
  | cons first rest ih =>
      rw [trimEnd_cons]
      split
      · rfl
      · rename_i kept
        rw [trimEnd_cons, ih, if_neg kept]

theorem trim_trim (text : Text) : trim (trim text) = trim text := by
  rw [← trimStart_trimEnd (trim text), trim, trimEnd_trimEnd, trimStart_trimEnd, trim,
    trimStart_trimStart]

/-- A text without blanks around it does not end in one. -/
theorem isBlank_last_of_trim {start : Text} {last : Char}
    (trimmed : trim (start ++ [last]) = start ++ [last]) : isBlank last = false := by
  cases blank : isBlank last with
  | false => rfl
  | true =>
      have ended : trimEnd (start ++ [last]) = start ++ [last] := by
        rw [← trimmed, trim, trimEnd_trimEnd]
      rw [trimEnd_append_blank start blank] at ended
      have shorter := (trimEnd_sublist start).length_le
      rw [ended, List.length_append, List.length_singleton] at shorter
      omega

theorem trimEnd_of_visible {text : Text} (visible : ∀ char ∈ text, isBlank char = false) :
    trimEnd text = text := by
  induction text with
  | nil => rfl
  | cons first rest ih =>
      rw [trimEnd_cons_visible (visible first (by simp)),
        ih fun char member => visible char (by simp [member])]

theorem trim_of_visible {text : Text} (visible : ∀ char ∈ text, isBlank char = false) :
    trim text = text := by
  rw [← trimStart_trimEnd, trimEnd_of_visible visible]
  cases text with
  | nil => rfl
  | cons first rest => exact trimStart_cons_visible (visible first (by simp))

theorem compact_of_visible {text : Text} (visible : ∀ char ∈ text, isBlank char = false) :
    compact text = text := by
  rw [compact, List.filter_eq_self]
  intro char member
  simp [visible char member]

theorem compact_cons (first : Char) (rest : Text) :
    compact (first :: rest) = if isBlank first then compact rest else first :: compact rest := by
  cases blank : isBlank first <;> simp [compact, blank]

theorem compact_trimStart (text : Text) : compact (trimStart text) = compact text := by
  induction text with
  | nil => rfl
  | cons first rest ih =>
      rw [trimStart_cons]
      split
      · rename_i blank
        rw [ih, compact_cons, if_pos blank]
      · rfl

theorem compact_trimEnd (text : Text) : compact (trimEnd text) = compact text := by
  induction text with
  | nil => rfl
  | cons first rest ih =>
      rw [trimEnd_cons]
      split
      · rename_i vacant
        rw [compact_cons, if_pos vacant.1, ← ih, vacant.2]
      · rw [compact_cons, compact_cons, ih]

theorem compact_trim (text : Text) : compact (trim text) = compact text := by
  rw [trim, compact_trimEnd, compact_trimStart]

theorem trimStart_replicate (count : Nat) (text : Text) :
    trimStart (List.replicate count ' ' ++ text) = trimStart text := by
  induction count with
  | zero => rfl
  | succ count ih =>
      rw [List.replicate_succ, List.cons_append, trimStart_cons, if_pos (by decide), ih]

theorem trim_leftpad (width : Nat) (text : Text) :
    trim (text.leftpad width ' ') = trim text := by
  rw [trim, List.leftpad, trimStart_replicate, trim]

theorem compact_leftpad (width : Nat) (text : Text) :
    compact (text.leftpad width ' ') = compact text := by
  rw [List.leftpad, compact_append, compact, List.filter_replicate, if_neg (by decide),
    List.nil_append]

/-- The first character that is left by trimming is the first one that is not blank. -/
theorem trim_cases (text : Text) :
    trim text = [] ∧ compact text = [] ∨
      ∃ first rest, isBlank first = false ∧ trim text = first :: trimEnd rest ∧
        compact text = first :: compact rest := by
  induction text with
  | nil => exact Or.inl ⟨rfl, rfl⟩
  | cons first rest ih =>
      cases blank : isBlank first with
      | false =>
          refine Or.inr ⟨first, rest, blank, trim_cons_visible blank, ?_⟩
          rw [compact, List.filter_cons, if_pos (by simp [blank])]
          rfl
      | true =>
          have trimmed : trim (first :: rest) = trim rest := by
            rw [trim, trimStart_cons, if_pos blank, trim]
          have compacted : compact (first :: rest) = compact rest := by
            rw [compact, List.filter_cons, if_neg (by simp [blank])]
            rfl
          rw [trimmed, compacted]
          exact ih

/-! ## Splitting -/

theorem map_trimStart_splitOn_trimStart {separator : Char} (visible : isBlank separator = false)
    (text : Text) :
    ((trimStart text).splitOn separator).map trimStart =
      (text.splitOn separator).map trimStart := by
  induction text with
  | nil => rfl
  | cons first rest ih =>
      rw [trimStart_cons]
      split
      · rename_i blank
        have different : (first == separator) = false := by
          rw [beq_eq_false_iff_ne]
          rintro rfl
          simp [visible] at blank
        rw [ih, List.splitOn_cons_eq_if_modifyHead, different]
        cases rest.splitOn separator with
        | nil => rfl
        | cons part parts => simp [trimStart_cons, blank]
      · rfl

theorem map_trimEnd_splitOn_trimEnd {separator : Char} (visible : isBlank separator = false)
    (text : Text) :
    ((trimEnd text).splitOn separator).map trimEnd = (text.splitOn separator).map trimEnd := by
  induction text with
  | nil => rfl
  | cons first rest ih =>
      cases same : first == separator with
      | true =>
          have here : isBlank first = false := by rwa [beq_iff_eq.1 same]
          rw [trimEnd_cons_visible here]
          simp [List.splitOn_cons_eq_if_modifyHead, same, ih]
      | false =>
          obtain ⟨part, parts, split⟩ :=
            List.exists_cons_of_ne_nil (List.splitOn_ne_nil separator rest)
          rw [trimEnd_cons]
          by_cases vacant : isBlank first = true ∧ trimEnd rest = []
          · rw [if_pos vacant]
            rw [vacant.2, split] at ih
            simp only [List.splitOn_nil, List.map_cons, List.map_nil, trimEnd_nil,
              List.cons.injEq] at ih
            simp [List.splitOn_cons_eq_if_modifyHead, same, split, trimEnd_cons, vacant.1, ← ih.1,
              ← ih.2]
          · rw [if_neg vacant]
            obtain ⟨inner, inners, splitInner⟩ :=
              List.exists_cons_of_ne_nil (List.splitOn_ne_nil separator (trimEnd rest))
            rw [split, splitInner] at ih
            simp only [List.map_cons, List.cons.injEq] at ih
            simp [List.splitOn_cons_eq_if_modifyHead, same, split, splitInner, trimEnd_cons, ih.1,
              ih.2]

/-- Trimming the parts of a text makes trimming the text itself superfluous. -/
theorem map_trim_splitOn_trim {separator : Char} (visible : isBlank separator = false)
    (text : Text) :
    ((trim text).splitOn separator).map trim = (text.splitOn separator).map trim := by
  have inOrder : trim = trimEnd ∘ trimStart := rfl
  have swapped : trim = trimStart ∘ trimEnd := by
    funext part
    exact (trimStart_trimEnd part).symm
  calc ((trim text).splitOn separator).map trim
      = (((trimEnd (trimStart text)).splitOn separator).map trimEnd).map trimStart := by
        rw [List.map_map, ← swapped, trim]
    _ = (((trimStart text).splitOn separator).map trimStart).map trimEnd := by
        rw [map_trimEnd_splitOn_trimEnd visible, List.map_map, List.map_map, ← swapped, inOrder]
    _ = (text.splitOn separator).map trim := by
        rw [map_trimStart_splitOn_trimStart visible, List.map_map, ← inOrder]

theorem notMem_of_mem_splitOn {separator : Char} {text part : Text}
    (member : part ∈ text.splitOn separator) : separator ∉ part := by
  induction text generalizing part with
  | nil => simp_all
  | cons first rest ih =>
      rw [List.splitOn_cons_eq_if_modifyHead] at member
      split at member
      · rcases List.mem_cons.1 member with rfl | later
        · exact List.not_mem_nil
        · exact ih later
      · rename_i different
        cases split : rest.splitOn separator with
        | nil => simp [split] at member
        | cons next parts =>
            rw [split, List.modifyHead_cons] at member
            rcases List.mem_cons.1 member with rfl | later
            · rw [List.mem_cons]
              rintro (rfl | inside)
              · simp at different
              · exact ih (by simp [split]) inside
            · exact ih (by simp [split, later])

theorem mem_of_mem_splitOn {separator char : Char} {text part : Text}
    (member : part ∈ text.splitOn separator) (inside : char ∈ part) : char ∈ text := by
  have joined : [separator].intercalate (text.splitOn separator) = text :=
    List.intercalate_splitOn separator
  rw [← joined]
  generalize text.splitOn separator = parts at member ⊢
  induction parts with
  | nil => cases member
  | cons first rest ih =>
      cases rest with
      | nil =>
          rw [List.mem_singleton.1 member] at inside
          simpa using inside
      | cons second rest =>
          rw [List.intercalate_cons_cons, List.mem_append, List.mem_append]
          rcases List.mem_cons.1 member with rfl | later
          · exact Or.inl (Or.inl inside)
          · exact Or.inr (ih later)

end FrameScript.Text
