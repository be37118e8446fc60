import FrameScript.Proofs.ActionLine.Fallback
import Mathlib.Data.List.Chain

/-!
# Plain fields

A field is plain if it is a single character, or an opener with a list of what it opens.  A field
of this kind is never a number, and it is read character by character as it is read as a whole.
-/

namespace FrameScript

open Number (Range)
open ActionLine (delimiter)

/-- A field that is read alike as a whole and character by character. -/
inductive Plain : Text → Prop where
  | vacant : Plain []
  | single (char : Char) (visible : Text.isBlank char = false) (undivided : char ≠ delimiter)
      (other : char.isDigit = false)
      (closed : ∀ tag, Tag.ofChar? char = some tag → Lenient.modeAfter tag = .tag) : Plain [char]
  | only (char : Char) (restriction : Restriction)
      (opens : Tag.ofChar? char = some (.only restriction)) (list : Text)
      (directed : ∀ other ∈ list, ((Tag.ofChar? other).bind Tag.direction?).isSome = true) :
      Plain (char :: list)
  | keys (char : Char) (opens : Tag.ofChar? char = some .keys) (list : Text)
      (visible : ∀ other ∈ list, Text.isBlank other = false) (undivided : delimiter ∉ list) :
      Plain (char :: list)

namespace Delimited

/-- Whether a field opens a list of keys. -/
def opensKeys (field : Text) : Bool :=
  field.head?.any fun char => Tag.ofChar? char == some .keys

/-- Whether a field opens a list, of restricted directions or of keys. -/
def opensList (field : Text) : Bool :=
  field.head?.any fun char =>
    match Tag.ofChar? char with
    | some (.only _) => true
    | some .keys => true
    | _ => false

/-- A field with the delimiter in front of it, or without. -/
def attached (divided : Bool) (field : Text) : Text :=
  if divided then delimiter :: field else field

/-- Fields of which each has a delimiter in front of it if the one before opens a list. -/
def Closed (pieces : List (Bool × Text)) : Prop :=
  pieces.IsChain fun first second => opensList first.2 = true → second.1 = true

instance (pieces : List (Bool × Text)) : Decidable (Closed pieces) :=
  inferInstanceAs (Decidable (pieces.IsChain _))

theorem map_snd_divided (fields : List Text) :
    (fields.map (Prod.mk true)).map Prod.snd = fields := by
  rw [List.map_map]
  exact List.map_id fields

theorem flatMap_divided (fields : List Text) :
    ((fields.map (Prod.mk true)).flatMap fun piece => attached piece.1 piece.2) =
      fields.flatMap fun field => delimiter :: field := by
  rw [List.flatMap_map]
  rfl

theorem closed_divided (fields : List Text) : Closed (fields.map (Prod.mk true)) :=
  (List.isChain_map _).2 (List.pairwise_of_forall fun _ _ _ => rfl).isChain

/-- The inputs that a field holds in the place of a tag. -/
def fieldInputs : Text → List Input
  | [] => []
  | first :: list => (Tag.ofChar? first).elim [] fun tag => inputsOf tag list

/-- A field in the place of a tag changes the held inputs and the keys of a line only. -/
theorem holdField_eq (line : ActionLine) (field : Text) :
    holdField line field =
      { line with
        held := (fieldInputs field).foldl Held.insert line.held
        keys := if opensKeys field then .ofText field.tail else line.keys } := by
  cases field with
  | nil => rfl
  | cons first list =>
      have keyed : opensKeys (first :: list) = (Tag.ofChar? first == some .keys) := rfl
      rw [holdField, takeTag, fieldInputs, keyed]
      cases Tag.ofChar? first with
      | none => rfl
      | some tag => simp [holdTag_eq]

theorem holdField_keys (line : ActionLine) {field : Text} (closed : opensKeys field = false) :
    (holdField line field).keys = line.keys := by
  rw [holdField_eq, closed]
  rfl

/-- A tag is held alike whatever the numbers of the line are. -/
theorem holdField_withNumbers (line : ActionLine) (angle magnitude : Option Text) (field : Text) :
    holdField { line with angle, magnitude } field =
      { holdField line field with angle, magnitude } := by
  rw [holdField_eq, holdField_eq]

theorem foldl_holdField_withNumbers (line : ActionLine) (angle magnitude : Option Text)
    (fields : List Text) :
    fields.foldl holdField { line with angle, magnitude } =
      { fields.foldl holdField line with angle, magnitude } := by
  induction fields generalizing line with
  | nil => rfl
  | cons first rest ih => rw [List.foldl_cons, holdField_withNumbers, ih, List.foldl_cons]

theorem foldl_holdField_numbers (line : ActionLine) (fields : List Text) :
    (fields.foldl holdField line).numbers = line.numbers := by
  have same := congrArg ActionLine.numbers
    (foldl_holdField_withNumbers line line.angle line.magnitude fields)
  exact same

theorem foldl_holdField_keys (line : ActionLine) {fields : List Text}
    (closed : fields.countP opensKeys = 0) : (fields.foldl holdField line).keys = line.keys := by
  induction fields generalizing line with
  | nil => rfl
  | cons first rest ih =>
      rw [List.countP_eq_zero, List.forall_mem_cons] at closed
      rw [List.foldl_cons, ih _ (List.countP_eq_zero.2 closed.2),
        holdField_keys line (Bool.eq_false_iff.2 closed.1)]

end Delimited

namespace Plain

variable {field : Text}

theorem visible (plain : Plain field) : ∀ char ∈ field, Text.isBlank char = false := by
  intro char member
  cases plain with
  | vacant => cases member
  | single first here =>
      rw [List.mem_singleton.1 member]
      exact here
  | only first restriction opens list directed =>
      rcases List.mem_cons.1 member with rfl | listed
      · exact Tag.isBlank_of_ofChar? opens
      · cases found : Tag.ofChar? char with
        | some tag => exact Tag.isBlank_of_ofChar? found
        | none =>
            have direction := directed char listed
            rw [found] at direction
            cases direction
  | keys first opens list here =>
      rcases List.mem_cons.1 member with rfl | listed
      · exact Tag.isBlank_of_ofChar? opens
      · exact here char listed

theorem undivided (plain : Plain field) : delimiter ∉ field := by
  intro member
  cases plain with
  | vacant => cases member
  | single first _ different => exact different (List.mem_singleton.1 member).symm
  | only first restriction opens list directed =>
      rcases List.mem_cons.1 member with rfl | listed
      · exact Tag.ne_delimiter_of_ofChar? opens rfl
      · exact absurd (directed delimiter listed) (by decide)
  | keys first opens list _ absent =>
      rcases List.mem_cons.1 member with rfl | listed
      · exact Tag.ne_delimiter_of_ofChar? opens rfl
      · exact absent listed

theorem featherless (plain : Plain field) : Delimited.opensFeather field = false := by
  cases plain with
  | vacant => rfl
  | single char _ _ _ closed =>
      have other : Tag.ofChar? char ≠ some .feather := by
        intro found
        cases closed .feather found
      simpa [Delimited.opensFeather, isFeather] using other
  | only char restriction opens => simp [Delimited.opensFeather, isFeather, opens]
  | keys char opens => simp [Delimited.opensFeather, isFeather, opens]

theorem head_not_count (plain : Plain field) :
    ∀ char, field.head? = some char → Lenient.isCountChar char = false := by
  intro char shape
  cases plain with
  | vacant => cases shape
  | single first _ undivided other =>
      cases shape
      simp [Lenient.isCountChar, other, undivided]
  | only first restriction opens =>
      cases shape
      exact Tag.isCountChar_of_ofChar? opens
  | keys first opens =>
      cases shape
      exact Tag.isCountChar_of_ofChar? opens

/-- A plain field is not a number. -/
theorem read?_eq_none (plain : Plain field) : Number.read? field = none := by
  cases found : Number.read? field with
  | none => rfl
  | some number =>
      have numeral := Number.numeralText_of_read? found
      rw [Text.trim_of_visible plain.visible] at numeral
      cases plain with
      | vacant => cases found
      | single char _ _ other =>
          have here := numeral char (by simp)
          simp only [Number.isNumeralChar, other, Bool.false_or, Bool.or_eq_true,
            beq_iff_eq] at here
          rcases here with (((rfl | rfl) | rfl) | rfl) | rfl
          all_goals cases found
      | only char restriction opens =>
          rw [Number.ofChar?_of_isNumeralChar (numeral char (by simp))] at opens
          cases opens
      | keys char opens =>
          rw [Number.ofChar?_of_isNumeralChar (numeral char (by simp))] at opens
          cases opens

end Plain

namespace Delimited

theorem clampText?_of_plain {field : Text} (plain : Plain field) (range : Range) :
    range.clampText? field = none := by
  rw [Range.clampText?, plain.read?_eq_none]
  rfl

/-- With invalid numbers tolerated, a plain field is read as a tag also where a number is
expected. -/
theorem step_plain {field : Text} (plain : Plain field) {expected : Expected}
    (given : expected = .magnitude → field ≠ []) (line : ActionLine) :
    ∃ next, next ≠ .magnitude ∧
      step true ⟨expected, line⟩ field = .ok ⟨next, holdField line field⟩ := by
  have taken : retake true line field = fun _ => .ok ⟨.tag, holdField line field⟩ := by
    funext reason
    rw [retake, if_pos rfl, takeTag_of_featherless line plain.featherless]
  cases expected with
  | tag =>
      exact ⟨.tag, by simp, congrArg Except.ok (takeTag_of_featherless line plain.featherless)⟩
  | angle =>
      simp only [step, clampText?_of_plain plain, taken]
      split
      · rename_i vacant
        obtain rfl := List.isEmpty_iff.1 vacant
        exact ⟨.shiftedAngle, by simp, rfl⟩
      · exact ⟨.tag, by simp, rfl⟩
  | shiftedAngle =>
      simp only [step, clampText?_of_plain plain, taken]
      exact ⟨.tag, by simp, rfl⟩
  | magnitude =>
      have some : ¬field.isEmpty = true := fun vacant => given rfl (List.isEmpty_iff.1 vacant)
      simp only [step, clampText?_of_plain plain, taken, if_neg some]
      exact ⟨.tag, by simp, rfl⟩

/-- Plain fields are read one after the other as tags. -/
theorem foldlM_plain {fields : List Text} (plain : ∀ field ∈ fields, Plain field)
    {expected : Expected} (given : expected = .magnitude → fields.head? ≠ some [])
    (line : ActionLine) :
    ∃ last, fields.foldlM (step true) ⟨expected, line⟩ =
      .ok ⟨last, fields.foldl holdField line⟩ := by
  induction fields generalizing expected line with
  | nil => exact ⟨expected, rfl⟩
  | cons first rest ih =>
      obtain ⟨next, other, taken⟩ := step_plain (plain first (by simp))
        (fun magnitude => by simpa using given magnitude) line
      obtain ⟨last, scanned⟩ := ih (fun field member => plain field (by simp [member]))
        (fun magnitude => absurd magnitude other) (holdField line first)
      refine ⟨last, ?_⟩
      rw [foldlM_cons_of_ok taken, scanned, List.foldl_cons]

end Delimited

/-! ## Plain fields character by character -/

namespace Lenient

open Delimited (attached holdField opensKeys opensList)

theorem foldlM_directionChars (restriction : Restriction) (count : FrameCount) {list : Text}
    (directed : ∀ char ∈ list, ((Tag.ofChar? char).bind Tag.direction?).isSome = true)
    (line : ActionLine) :
    list.foldlM step ⟨.only restriction, count, line⟩ =
      .ok ⟨.only restriction, count, list.foldl (Delimited.holdRestricted restriction) line⟩ := by
  refine foldlM_of_ok (fun line => (⟨.only restriction, count, line⟩ : Scan))
    (Delimited.holdRestricted restriction) (fun char member line => ?_) line
  obtain ⟨direction, found⟩ := Option.isSome_iff_exists.1 (directed char member)
  obtain ⟨tag, tagged, _⟩ := Option.bind_eq_some_iff.1 found
  simp only [step, dispatch, if_neg (Tag.ne_delimiter_of_ofChar? tagged), found,
    Delimited.holdRestricted]
  rfl

/-- A plain field is read character by character as it is read as a whole.  Unless it opens a list,
a tag is expected behind it. -/
theorem foldlM_plainField {field : Text} (plain : Plain field) (count : FrameCount)
    {line : ActionLine} (unkeyed : opensKeys field = true → line.keys = ∅) :
    ∃ last, Idle last ∧ (last ≠ .tag → opensList field = true) ∧
      field.foldlM step ⟨.tag, count, line⟩ = .ok ⟨last, count, holdField line field⟩ := by
  cases plain with
  | vacant => exact ⟨.tag, idle_tag, by simp, rfl⟩
  | single char _ undivided _ closed =>
      refine ⟨.tag, idle_tag, by simp, ?_⟩
      rw [holdField, Delimited.takeTag]
      cases found : Tag.ofChar? char with
      | none =>
          have passed : step ⟨.tag, count, line⟩ char = .ok ⟨.tag, count, line⟩ := by
            simp only [step, dispatch, takeTag, if_neg undivided, found]
            rfl
          rw [foldlM_cons_of_ok passed]
          rfl
      | some tag =>
          have unlisted := closed tag found
          rw [foldlM_cons_of_ok (step_tag found count line), unlisted]
          cases tag with
          | direction _ => rfl
          | button _ => rfl
          | only _ => cases unlisted
          | keys => cases unlisted
          | feather => cases unlisted
  | only char restriction opens list directed =>
      refine ⟨.only restriction, idle_only restriction, fun _ => by simp [opensList, opens], ?_⟩
      rw [foldlM_cons_of_ok (step_tag opens count line), holdField, Delimited.takeTag, opens]
      exact foldlM_directionChars restriction count directed _
  | keys char opens list _ undivided =>
      refine ⟨.keys, idle_keys, fun _ => by simp [opensList, opens], ?_⟩
      have empty : (line.hold (.tag .keys)).keys = ∅ :=
        unkeyed (by simp [opensKeys, opens])
      rw [foldlM_cons_of_ok (step_tag opens count line), holdField, Delimited.takeTag, opens]
      have listed := foldlM_keys count undivided (line.hold (.tag .keys))
      rw [KeySet.foldl_insert_eq_ofText (Or.inl empty)] at listed
      exact listed

/-- Plain fields, of which one at most opens a list of keys, are read character by character as
they are read as a whole, also where the delimiter behind a field that opens no list is missing. -/
theorem foldlM_pieces {pieces : List (Bool × Text)} (plain : ∀ piece ∈ pieces, Plain piece.2)
    (closed : Delimited.Closed pieces) (once : (pieces.map Prod.snd).countP opensKeys ≤ 1)
    (count : FrameCount) {mode : Mode} (ends : EndsField mode)
    (ready : mode ≠ .tag → ∀ piece, pieces.head? = some piece → piece.1 = true)
    {line : ActionLine} (unkeyed : (pieces.map Prod.snd).countP opensKeys ≠ 0 → line.keys = ∅) :
    ∃ last, EndsField last ∧
      (pieces.flatMap fun piece => attached piece.1 piece.2).foldlM step ⟨mode, count, line⟩ =
        .ok ⟨last, count, (pieces.map Prod.snd).foldl holdField line⟩ := by
  induction pieces generalizing mode line with
  | nil => exact ⟨mode, ends, rfl⟩
  | cons first rest ih =>
      obtain ⟨divided, field⟩ := first
      rw [List.map_cons, List.countP_cons] at once unkeyed
      obtain ⟨next, idle, listed, taken⟩ := foldlM_plainField (plain (divided, field) (by simp))
        count (fun opens => unkeyed (by simp [opens]))
      have attachedTaken : (attached divided field).foldlM step ⟨mode, count, line⟩ =
          .ok ⟨next, count, holdField line field⟩ := by
        cases divided with
        | true =>
            rw [attached, if_pos rfl, foldlM_cons_of_ok (step_delimiter ends count line), taken]
        | false =>
            have tagged : mode = .tag := by
              by_contra other
              cases ready other (false, field) rfl
            rw [attached, if_neg (by simp), tagged, taken]
      have later : (rest.map Prod.snd).countP opensKeys ≠ 0 → (holdField line field).keys = ∅ := by
        intro some
        have unopened : opensKeys field = false := by
          cases opens : opensKeys field with
          | false => rfl
          | true =>
              rw [opens, if_pos rfl] at once
              omega
        rw [Delimited.holdField_keys line unopened]
        exact unkeyed (by omega)
      rw [Delimited.Closed, List.isChain_cons] at closed
      obtain ⟨last, lastEnds, scanned⟩ := ih (fun piece member => plain piece (by simp [member]))
        closed.2 (by omega) idle.endsField
        (fun other piece head => closed.1 piece head (listed other)) later
      refine ⟨last, lastEnds, ?_⟩
      rw [List.flatMap_cons, foldlM_append_of_ok attachedTaken, scanned, List.map_cons,
        List.foldl_cons]

/-- Plain fields with all their delimiters. -/
theorem foldlM_plainFields {fields : List Text} (plain : ∀ field ∈ fields, Plain field)
    (once : fields.countP opensKeys ≤ 1) (count : FrameCount) {mode : Mode}
    (ends : EndsField mode) {line : ActionLine}
    (unkeyed : fields.countP opensKeys ≠ 0 → line.keys = ∅) :
    ∃ last, EndsField last ∧
      (fields.flatMap fun field => delimiter :: field).foldlM step ⟨mode, count, line⟩ =
        .ok ⟨last, count, fields.foldl holdField line⟩ := by
  have fieldsOnly := Delimited.map_snd_divided fields
  have divided : ∀ piece, (fields.map (Prod.mk true)).head? = some piece → piece.1 = true := by
    intro piece head
    obtain ⟨field, _, rfl⟩ := List.mem_map.1 (List.mem_of_head? head)
    rfl
  rw [← fieldsOnly] at once unkeyed
  obtain ⟨last, lastEnds, scanned⟩ := foldlM_pieces (List.forall_mem_map.2 plain)
    (Delimited.closed_divided fields) once count ends (fun _ => divided) unkeyed
  refine ⟨last, lastEnds, ?_⟩
  rwa [fieldsOnly, Delimited.flatMap_divided] at scanned

/-- Where a tag is expected, digits and delimiters are passed over. -/
theorem foldlM_dropWhile (text : Text) (count : FrameCount) (line : ActionLine) :
    (text.dropWhile isCountChar).foldlM step ⟨.tag, count, line⟩ =
      text.foldlM step ⟨.tag, count, line⟩ := by
  induction text with
  | nil => rfl
  | cons first rest ih =>
      rw [List.dropWhile_cons]
      split
      · rename_i counts
        have passed : step ⟨.tag, count, line⟩ first = .ok ⟨.tag, count, line⟩ := by
          rw [isCountChar, Bool.or_eq_true, beq_iff_eq] at counts
          rcases counts with digit | rfl
          · have missing :=
              Number.ofChar?_of_isNumeralChar (Number.isNumeralChar_of_isDigit digit)
            simp only [step, dispatch, takeTag, missing]
            split <;> rfl
          · rfl
        rw [ih, foldlM_cons_of_ok passed]
      · rfl

/-- Between a frame count and the first tag stand no digits. -/
theorem filter_isDigit_pieces {pieces : List (Bool × Text)}
    (plain : ∀ piece ∈ pieces, Plain piece.2) {rest : Text}
    (stops : (rest.takeWhile isCountChar).filter Char.isDigit = []) :
    (((pieces.flatMap fun piece => attached piece.1 piece.2) ++ rest).takeWhile
      isCountChar).filter Char.isDigit = [] := by
  have passed : isCountChar delimiter = true := rfl
  have unwritten : delimiter.isDigit = false := rfl
  induction pieces with
  | nil => exact stops
  | cons first more ih =>
      have later := ih fun piece member => plain piece (by simp [member])
      obtain ⟨divided, field⟩ := first
      cases field with
      | nil => cases divided <;> simpa [attached, passed, unwritten] using later
      | cons head list =>
          have ends := (plain (divided, head :: list) (by simp)).head_not_count head rfl
          cases divided <;> simp [attached, passed, unwritten, ends]

theorem filter_isDigit_plainFields {fields : List Text} (plain : ∀ field ∈ fields, Plain field)
    {rest : Text} (stops : (rest.takeWhile isCountChar).filter Char.isDigit = []) :
    (((fields.flatMap fun field => delimiter :: field) ++ rest).takeWhile
      isCountChar).filter Char.isDigit = [] := by
  rw [← Delimited.flatMap_divided]
  exact filter_isDigit_pieces (List.forall_mem_map.2 plain) stops

end Lenient

end FrameScript
