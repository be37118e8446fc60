import FrameScript.Proofs.ActionLine.Feather

/-!
# Delimited lines that are read leniently

A delimited line with an invalid number is read leniently if invalid numbers are rejected.  Such a
line has a field that opens with the feather.  Whether it is rejected in the end is told by the runs
of digits and points behind that feather, and not by the field for which it was rejected first.
-/

namespace FrameScript

open ActionLine (delimiter FallsBack)

namespace Delimited

/-- The characters that a lenient reading takes from the fields of a line. -/
theorem compact_eq (text : Text) :
    Text.compact text =
      Text.compact (countField text) ++
        ((fieldsOf text).tail.map Text.compact).flatMap fun field => delimiter :: field := by
  have joined : [delimiter].intercalate (text.splitOn delimiter) = text :=
    List.intercalate_splitOn delimiter
  obtain ⟨part, parts, split⟩ := List.exists_cons_of_ne_nil (List.splitOn_ne_nil delimiter text)
  have fields : fieldsOf text = Text.trim part :: parts.map Text.trim := by
    rw [fieldsOf_eq, split, List.map_cons]
  have compacted : (parts.map Text.trim).map Text.compact = parts.map Text.compact := by
    rw [List.map_map]
    exact List.map_congr_left fun part _ => Text.compact_trim part
  rw [← headD_fieldsOf, fields, List.headD_cons, List.tail_cons, Text.compact_trim, compacted,
    ← ActionLine.compact_flatMap_delimiter, ← Text.compact_append,
    ← ActionLine.intercalate_delimiter, ← split, joined]

/-- The line with a field read in the place of a tag. -/
def holdField (line : ActionLine) (field : Text) : ActionLine := (takeTag line field).line

/-- Whether a field opens with the feather. -/
def opensFeather (field : Text) : Bool := field.head?.any isFeather

/-- Behind a field that does not open with the feather a tag is expected. -/
theorem takeTag_of_featherless (line : ActionLine) {field : Text}
    (featherless : opensFeather field = false) :
    takeTag line field = ⟨.tag, holdField line field⟩ := by
  cases field with
  | nil => rfl
  | cons first list =>
      rw [holdField, takeTag]
      cases found : Tag.ofChar? first with
      | none => rfl
      | some tag =>
          cases tag with
          | feather => simp [opensFeather, isFeather, found] at featherless
          | direction _ => rfl
          | button _ => rfl
          | only _ => rfl
          | keys => rfl

theorem takeTag_of_opensFeather (line : ActionLine) {field : Text}
    (opens : opensFeather field = true) :
    takeTag line field = ⟨.angle, line.hold (.tag .feather)⟩ := by
  cases field with
  | nil => cases opens
  | cons first list =>
      have writes : Tag.ofChar? first = some .feather := beq_iff_eq.1 opens
      simp only [takeTag, writes]
      rfl

/-- Fields that do not open with the feather are read one after the other as tags. -/
theorem foldlM_featherless (tolerant : Bool) {fields : List Text}
    (featherless : ∀ field ∈ fields, opensFeather field = false) (line : ActionLine) :
    fields.foldlM (step tolerant) ⟨.tag, line⟩ =
      .ok ⟨.tag, fields.foldl holdField line⟩ := by
  refine foldlM_of_ok (fun line => (⟨.tag, line⟩ : Scan)) holdField
    (fun field member line => ?_) line
  exact congrArg Except.ok (takeTag_of_featherless line (featherless field member))

/-- A line none of whose fields opens with the feather is read alike whether invalid numbers are
tolerated or not. -/
theorem read_of_featherless {text : Text}
    (featherless : ∀ field ∈ (fieldsOf text).tail, opensFeather field = false) (tolerant : Bool) :
    read tolerant text = read true text := by
  have alike (frames : Nat) :
      readFields tolerant frames (fieldsOf text).tail =
        readFields true frames (fieldsOf text).tail := by
    rw [readFields, readFields, foldlM_featherless tolerant featherless,
      foldlM_featherless true featherless]
    rfl
  simp only [read, alike]

end Delimited

namespace ActionLine.FallsBack

variable {text : Text}

/-- A line that falls back has its frame count in its first field. -/
theorem counted (falls : FallsBack text) :
    (Delimited.countField text).isDigits = true ∧
      (Delimited.countField text).length ≤ digitLimit := by
  obtain ⟨⟨line, found⟩, _⟩ := falls
  cases isDigits : (Delimited.countField text).isDigits with
  | false =>
      rw [Delimited.read_of_uncounted isDigits] at found
      cases found
  | true =>
      refine ⟨rfl, Nat.le_of_not_lt fun long => ?_⟩
      rw [Delimited.read_of_overlong isDigits long] at found
      cases found

theorem exists_feather (falls : FallsBack text) :
    ∃ field ∈ (Delimited.fieldsOf text).tail, Delimited.opensFeather field = true := by
  by_contra none
  have featherless : ∀ field ∈ (Delimited.fieldsOf text).tail,
      Delimited.opensFeather field = false := by
    intro field member
    exact Bool.eq_false_iff.2 fun opens => none ⟨field, member, opens⟩
  obtain ⟨⟨line, found⟩, reason, rejected⟩ := falls
  rw [Delimited.read_of_featherless featherless, found] at rejected
  cases rejected

/-- The feather of a line that falls back stands behind a delimiter. -/
theorem exists_split (falls : FallsBack text) :
    ∃ front feather behind, isFeather feather = true ∧
      Text.compact text =
        Delimited.countField text ++ (front ++ delimiter :: feather :: behind) := by
  obtain ⟨field, member, opens⟩ := falls.exists_feather
  have visible : ∀ char ∈ Delimited.countField text, Text.isBlank char = false := by
    intro char inside
    have digit := (Text.isDigits_iff.1 falls.counted.1).2 char inside
    exact Number.isBlank_of_isNumeralChar (Number.isNumeralChar_of_isDigit digit)
  cases field with
  | nil => cases opens
  | cons feather list =>
      have writes : isFeather feather = true := opens
      have seen := Tag.isBlank_of_ofChar? (beq_iff_eq.1 writes)
      obtain ⟨before, after, parts⟩ := List.append_of_mem member
      refine ⟨(before.map Text.compact).flatMap fun field => delimiter :: field, feather,
        Text.compact list ++ (after.map Text.compact).flatMap fun field => delimiter :: field,
        writes, ?_⟩
      rw [Delimited.compact_eq, parts, Text.compact_of_visible visible, List.map_append,
        List.flatMap_append, List.map_cons, List.flatMap_cons, Text.compact_cons,
        if_neg (by simp [seen])]
      simp

/-- A line that falls back has digits and something behind them. -/
theorem ended (falls : FallsBack text) :
    Lenient.countPart text ≠ Text.compact text ∧ Lenient.countDigits text ≠ [] := by
  obtain ⟨front, feather, behind, writes, shape⟩ := falls.exists_split
  have digits := falls.counted.1
  constructor
  · intro same
    have inside : feather ∈ Lenient.countPart text := by
      rw [same, shape]
      simp
    have counts := List.all_eq_true.1 List.all_takeWhile feather inside
    rw [Tag.isCountChar_of_ofChar? (beq_iff_eq.1 writes)] at counts
    cases counts
  · cases count : Delimited.countField text with
    | nil =>
        rw [count] at digits
        cases digits
    | cons first rest =>
        have digit : first.isDigit = true := by
          rw [count] at digits
          exact (Text.isDigits_iff.1 digits).2 first (by simp)
        rw [Lenient.countDigits, Lenient.countPart, shape, count]
        simp [Lenient.isCountChar, digit]

/-- A line that falls back is rejected exactly when a lenient reading finds what is no number in
the place of one. -/
theorem rejected_iff (falls : FallsBack text) :
    (∃ reason, read false text = .error (.rejected reason)) ↔
      ∃ line, Lenient.read true text = .ok line ∧ ¬line.Numeric := by
  rw [falls.read_eq.1]
  by_cases within : (Lenient.countDigits text).length ≤ digitLimit
  · obtain ⟨line, found, _⟩ := Lenient.exists_read_of_counted falls.ended.1 falls.ended.2 within
    rw [Lenient.rejected_iff_not_numeric found]
    constructor
    · exact fun invalid => ⟨line, found, invalid⟩
    · rintro ⟨other, same, invalid⟩
      rw [found] at same
      cases same
      exact invalid
  · have overlong (tolerant : Bool) :
        Lenient.read tolerant text = .error (.overlong ⟨(Lenient.countDigits text).length⟩) :=
      Lenient.read_of_overlong falls.ended.1 (by omega)
    simp [overlong]

/-- With one feather, a line that falls back is rejected exactly when one of the runs of digits and
points behind it is not a number. -/
theorem rejected_iff_kept (falls : FallsBack text) (once : text.countP isFeather = 1) :
    (∃ reason, read false text = .error (.rejected reason)) ↔
      (Lenient.countDigits text).length ≤ digitLimit ∧
        (Kept (Lenient.angleRun (Lenient.behindFeather text)) ∨
          Kept (Lenient.magnitudeRun (Lenient.behindFeather text))) := by
  obtain ⟨front, feather, behind, writes, shape⟩ := falls.exists_split
  have single : Lenient.Single text (Delimited.countField text ++ front) feather behind :=
    Lenient.single_of_countP (by simp [shape]) (beq_iff_eq.1 writes) once
  rw [falls.read_eq.1, single.behindFeather_eq]
  by_cases within : (Lenient.countDigits text).length ≤ digitLimit
  · obtain ⟨scan, scanned, started, numbers⟩ :=
      single.exists_scan falls.ended.1 falls.ended.2 within
    obtain ⟨angle, magnitude⟩ := Prod.mk.inj numbers
    rw [Lenient.rejected_iff scanned started, and_iff_right within, angle, magnitude]
    simp only [Lenient.collected_eq_some_iff]
    constructor
    · rintro ⟨number, ⟨given, rfl⟩ | ⟨given, rfl⟩, missing⟩
      · exact Or.inl ⟨given, missing, fun char => Lenient.isNumberChar_of_mem_takeWhile⟩
      · exact Or.inr ⟨given, missing, fun char => Lenient.isNumberChar_of_mem_magnitudeRun⟩
    · rintro (kept | kept)
      · exact ⟨_, Or.inl ⟨kept.1, rfl⟩, kept.2.1⟩
      · exact ⟨_, Or.inr ⟨kept.1, rfl⟩, kept.2.1⟩
  · have overlong :
        Lenient.read false text = .error (.overlong ⟨(Lenient.countDigits text).length⟩) :=
      Lenient.read_of_overlong falls.ended.1 (by omega)
    simp [overlong, within]

/-- With one feather, which stands alone in its field, all that counts is the digits and points that
begin the next field, also if a later field is the one that is not a number. -/
theorem rejected_iff_kept_field (falls : FallsBack text) (once : text.countP isFeather = 1)
    {before after : List Text} {feather : Char} {token : Text} (writes : isFeather feather = true)
    (fields : (Delimited.fieldsOf text).tail = before ++ [feather] :: token :: after) :
    (∃ reason, read false text = .error (.rejected reason)) ↔
      (Lenient.countDigits text).length ≤ digitLimit ∧
        Kept ((Text.compact token).takeWhile Lenient.isNumberChar) := by
  have visible := Tag.isBlank_of_ofChar? (beq_iff_eq.1 writes)
  have single : Lenient.Single text
      (Text.compact (Delimited.countField text) ++
        (before.map Text.compact).flatMap fun field => delimiter :: field) feather
      (delimiter :: (Text.compact token ++
        (after.map Text.compact).flatMap fun field => delimiter :: field)) := by
    refine Lenient.single_of_countP ?_ (beq_iff_eq.1 writes) once
    rw [Delimited.compact_eq, fields, List.map_append, List.flatMap_append, List.map_cons,
      List.flatMap_cons, List.map_cons, List.flatMap_cons, Text.compact_cons,
      if_neg (by simp [visible])]
    simp [Text.compact]
  have vacant : ¬Kept [] := fun kept => kept.1 rfl
  rw [falls.rejected_iff_kept once, single.behindFeather_eq]
  rw [Lenient.angleRun_delimiter, Lenient.magnitudeRun_delimiter, Lenient.takeWhile_field,
    or_iff_right vacant]

end ActionLine.FallsBack

end FrameScript
