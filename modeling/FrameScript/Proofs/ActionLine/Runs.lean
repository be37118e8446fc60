import FrameScript.Proofs.ActionLine.Feather
import Mathlib.Data.List.Infix

/-!
# The numbers of several feathers

Every feather of a line has its own runs of digits and points behind it, but a lenient reading has
only one angle and one magnitude to collect them in, and it goes on with what it has whenever it
comes to another feather.  So the angle of a line is made of all the angle runs together, or of all
the magnitude runs if there is no angle.  It is one run of the line when only one of them is not
empty; otherwise the line gets a number that stands nowhere in it.
-/

namespace FrameScript.Lenient

open Number (Range)
open ActionLine (delimiter)

/-- The two runs of digits and points behind a feather. -/
structure Runs where
  angle : Text := []
  magnitude : Text := []
  deriving DecidableEq, Repr

/-- The runs at the start of a text that stands behind a feather. -/
def Runs.behind (text : Text) : Runs := ⟨angleRun text, magnitudeRun text⟩

/-- The runs behind every feather of a text, told from the text alone.  The flag says whether the
text starts inside a list of keys, where up to the next delimiter no character is a tag. -/
def feathers : Bool → Text → List Runs
  | _, [] => []
  | true, first :: rest => feathers (first != delimiter) rest
  | false, first :: rest =>
      match Tag.ofChar? first with
      | some .feather => .behind rest :: feathers false rest
      | tag? => feathers (tag? == some .keys) rest

theorem feathers_of_untagged {char : Char} (untagged : Tag.ofChar? char = none) (rest : Text) :
    feathers false (char :: rest) = feathers false rest := by
  rw [feathers, untagged]
  rfl

theorem feathers_delimiter (rest : Text) :
    feathers false (delimiter :: rest) = feathers false rest :=
  feathers_of_untagged (by decide) rest

theorem untagged_of_isNumberChar {char : Char} (number : isNumberChar char = true) :
    Tag.ofChar? char = none := by
  apply Number.ofChar?_of_isNumeralChar
  rcases Bool.or_eq_true_iff.1 number with digit | point
  · exact Number.isNumeralChar_of_isDigit digit
  · rw [beq_iff_eq.1 point]
    decide

/-- Runs put together, each kind for itself. -/
def joined (runs : List Runs) : Runs := ⟨runs.flatMap Runs.angle, runs.flatMap Runs.magnitude⟩

/-- What a reading has collected. -/
def Scan.collected (scan : Scan) : Runs := ⟨scan.line.angle.getD [], scan.line.magnitude.getD []⟩

/-- The runs at the start of a text that belong to the feather whose numbers are being read. -/
def ahead : Mode → Text → Runs
  | .angle, text => .behind text
  | .magnitude, text => { magnitude := text.takeWhile isNumberChar }
  | _, _ => {}

/-- Whether a reading is inside a list of keys. -/
def inKeys : Mode → Bool
  | .keys => true
  | _ => false

/-- What a reading will have collected at the end of a text. -/
def total (scan : Scan) (text : Text) : Runs :=
  joined (scan.collected :: ahead scan.mode text :: feathers (inKeys scan.mode) text)

theorem total_nil (scan : Scan) : total scan [] = scan.collected := by
  obtain ⟨mode, count, line⟩ := scan
  cases mode <;> simp [total, joined, ahead, feathers, Runs.behind, angleRun, magnitudeRun]

/-- Outside the lists of keys and the numbers, only the feathers ahead add to what there is. -/
theorem total_idle {scan : Scan} {text : Text} (idle : ahead scan.mode text = {})
    (outside : inKeys scan.mode = false) :
    total scan text = joined (scan.collected :: feathers false text) := by
  rw [total, idle, outside]
  rfl

/-- What is ahead behind a tag that has been read was ahead at its character already. -/
theorem total_takeTag (scan : Scan) (char : Char) (rest : Text) :
    total (takeTag scan char) rest = joined (scan.collected :: feathers false (char :: rest)) := by
  rw [takeTag]
  split
  · rename_i ends
    rw [ends, feathers_delimiter]
    rfl
  · cases found : Tag.ofChar? char with
    | none =>
        rw [feathers_of_untagged found]
        rfl
    | some tag =>
        rw [feathers, found]
        cases tag <;> rfl

theorem behind_of_number {char : Char} (number : isNumberChar char = true) (rest : Text) :
    Runs.behind (char :: rest) = ⟨char :: angleRun rest, magnitudeRun rest⟩ := by
  simp only [Runs.behind, angleRun, magnitudeRun, List.takeWhile_cons_of_pos number,
    List.dropWhile_cons_of_pos number]

theorem behind_of_other {char : Char} (other : isNumberChar char = false)
    (undivided : char ≠ delimiter) (rest : Text) : Runs.behind (char :: rest) = {} := by
  have stops : ¬isNumberChar char = true := by simp [other]
  simp only [Runs.behind, angleRun, magnitudeRun, List.takeWhile_cons_of_neg stops,
    List.dropWhile_cons_of_neg stops, if_neg undivided]

theorem total_angle_of_number {char : Char} (number : isNumberChar char = true)
    (count : FrameCount) (line : ActionLine) (rest : Text) :
    total ⟨.angle, count, { line with angle := extend line.angle char }⟩ rest =
      total ⟨.angle, count, line⟩ (char :: rest) := by
  have same := feathers_of_untagged (untagged_of_isNumberChar number) rest
  simp only [total, ahead, behind_of_number number, inKeys, same]
  simp [joined, Runs.behind, Scan.collected, extend]

theorem total_magnitude_of_number {char : Char} (number : isNumberChar char = true)
    (count : FrameCount) (line : ActionLine) (rest : Text) :
    total ⟨.magnitude, count, { line with magnitude := extend line.magnitude char }⟩ rest =
      total ⟨.magnitude, count, line⟩ (char :: rest) := by
  have same := feathers_of_untagged (untagged_of_isNumberChar number) rest
  simp only [total, ahead, List.takeWhile_cons_of_pos number, inKeys, same]
  simp [joined, Scan.collected, extend]

/-- What a mode may do with a character: the total stays as it is, or the character is handed over
and nothing at it belongs to a number or to a list of keys. -/
def Keeps (scan : Scan) (char : Char) (rest : Text) : Dispatch → Prop
  | .taken next => total next rest = total scan (char :: rest)
  | .handedOver next =>
      next.collected = scan.collected ∧ ahead scan.mode (char :: rest) = {} ∧
        inKeys scan.mode = false

section

variable {char : Char} {count : FrameCount} {line : ActionLine} {result : Dispatch} (rest : Text)

theorem keeps_frames (taken : dispatch ⟨.frames, count, line⟩ char = .ok result) :
    Keeps ⟨.frames, count, line⟩ char rest result := by
  unfold dispatch at taken
  dsimp only at taken
  split at taken
  · rename_i digit
    have number : isNumberChar char = true := by rw [isNumberChar, digit, Bool.true_or]
    cases taken
    rw [Keeps, total_idle rfl rfl, total_idle rfl rfl,
      feathers_of_untagged (untagged_of_isNumberChar number)]
    rfl
  · split at taken
    · rename_i passes
      cases taken
      rw [Keeps, passes, total_idle rfl rfl, total_idle rfl rfl, feathers_delimiter]
    · split at taken
      · cases taken
      · split at taken
        · cases taken
        · cases taken
          exact ⟨rfl, rfl, rfl⟩

theorem keeps_only {restriction : Restriction}
    (taken : dispatch ⟨.only restriction, count, line⟩ char = .ok result) :
    Keeps ⟨.only restriction, count, line⟩ char rest result := by
  unfold dispatch at taken
  dsimp only at taken
  split at taken
  · rename_i ends
    cases taken
    rw [Keeps, ends, total_idle rfl rfl, total_idle rfl rfl, feathers_delimiter]
    rfl
  · split at taken
    · rename_i direction found
      cases taken
      obtain ⟨tag, written, directs⟩ := Option.bind_eq_some_iff.1 found
      rw [Keeps, total_idle rfl rfl, total_idle rfl rfl, feathers, written]
      cases tag with
      | direction _ => rfl
      | _ => cases directs
    · cases taken
      exact ⟨rfl, rfl, rfl⟩

theorem keeps_keys (taken : dispatch ⟨.keys, count, line⟩ char = .ok result) :
    Keeps ⟨.keys, count, line⟩ char rest result := by
  unfold dispatch at taken
  dsimp only at taken
  split at taken
  · rename_i ends
    cases taken
    rw [Keeps, ends]
    rfl
  · rename_i inside
    cases taken
    simp only [Keeps, total, inKeys, feathers, bne_iff_ne.2 inside]
    rfl

theorem keeps_angle (taken : dispatch ⟨.angle, count, line⟩ char = .ok result) :
    Keeps ⟨.angle, count, line⟩ char rest result := by
  unfold dispatch at taken
  dsimp only at taken
  split at taken
  · rename_i divides
    cases taken
    simp only [Keeps, divides, total, inKeys, feathers_delimiter]
    rfl
  · rename_i undivided
    split at taken
    · rename_i number
      cases taken
      exact total_angle_of_number number count line rest
    · rename_i other
      cases taken
      exact ⟨rfl, behind_of_other (by simpa using other) undivided rest, rfl⟩

theorem keeps_magnitude (taken : dispatch ⟨.magnitude, count, line⟩ char = .ok result) :
    Keeps ⟨.magnitude, count, line⟩ char rest result := by
  unfold dispatch at taken
  dsimp only at taken
  split at taken
  · rename_i ends
    cases taken
    rw [Keeps, ends, total_idle rfl rfl, total_idle rfl rfl, feathers_delimiter]
    rfl
  · split at taken
    · rename_i number
      cases taken
      exact total_magnitude_of_number number count line rest
    · rename_i other
      cases taken
      refine ⟨rfl, ?_, rfl⟩
      rw [ahead, List.takeWhile_cons_of_neg other]

end

theorem keeps_dispatch {scan : Scan} {char : Char} {result : Dispatch} (rest : Text)
    (taken : dispatch scan char = .ok result) : Keeps scan char rest result := by
  obtain ⟨mode, count, line⟩ := scan
  cases mode with
  | frames => exact keeps_frames rest taken
  | tag =>
      cases taken
      rw [Keeps, total_takeTag, total_idle rfl rfl]
  | only restriction => exact keeps_only rest taken
  | keys => exact keeps_keys rest taken
  | angle => exact keeps_angle rest taken
  | magnitude => exact keeps_magnitude rest taken

/-- One character leaves the total as it is: a reading goes on with the numbers that it has. -/
theorem total_step {scan next : Scan} {char : Char} (taken : step scan char = .ok next)
    (rest : Text) : total next rest = total scan (char :: rest) := by
  rw [step] at taken
  cases dispatched : dispatch scan char with
  | error refusal =>
      rw [dispatched] at taken
      cases taken
  | ok result =>
      have keeps := keeps_dispatch rest dispatched
      rw [dispatched] at taken
      cases result with
      | taken state =>
          cases taken
          exact keeps
      | handedOver state =>
          cases taken
          obtain ⟨same, idle, outside⟩ := keeps
          rw [total_takeTag, total_idle idle outside, same]

/-- So the whole text leaves it as it is. -/
theorem total_foldlM {text : Text} {scan last : Scan} (scanned : text.foldlM step scan = .ok last) :
    last.collected = total scan text := by
  induction text generalizing scan with
  | nil =>
      cases scanned
      rw [total_nil]
  | cons first rest ih =>
      cases taken : step scan first with
      | error refusal =>
          rw [List.foldlM_cons, taken] at scanned
          cases scanned
      | ok next =>
          rw [foldlM_cons_of_ok taken] at scanned
          rw [ih scanned, total_step taken]

/-- A lenient reading collects all runs behind the feathers of a text. -/
theorem collected_eq_joined {text : Text} {scan : Scan}
    (scanned : (Text.compact text).foldlM step {} = .ok scan) :
    scan.collected = joined (feathers false (Text.compact text)) := by
  rw [total_foldlM scanned, total_idle rfl rfl]
  rfl

/-! ## The runs of the angle -/

/-- A text of digits and points that stands in a line, blanks left out. -/
structure TypedIn (text run : Text) : Prop where
  inside : run <:+: Text.compact text
  numeric : ∀ char ∈ run, isNumberChar char = true

theorem magnitudeRun_within (text : Text) : magnitudeRun text <:+: text := by
  have behind := List.dropWhile_suffix (l := text) isNumberChar
  rw [magnitudeRun]
  cases shape : text.dropWhile isNumberChar with
  | nil => exact List.nil_infix
  | cons first rest =>
      rw [shape] at behind
      dsimp only
      split
      · have later : rest <:+ text := (List.suffix_cons first rest).trans behind
        exact (List.takeWhile_prefix isNumberChar).isInfix.trans later.isInfix
      · exact List.nil_infix

theorem exists_behind_of_mem_feathers {text : Text} {inside : Bool} {runs : Runs}
    (member : runs ∈ feathers inside text) :
    ∃ behind, behind <:+ text ∧ runs = .behind behind := by
  induction text generalizing inside with
  | nil =>
      rw [feathers] at member
      cases member
  | cons first rest ih =>
      have later {inside : Bool} (member : runs ∈ feathers inside rest) :
          ∃ behind, behind <:+ first :: rest ∧ runs = .behind behind := by
        obtain ⟨behind, suffix, shape⟩ := ih member
        exact ⟨behind, suffix.trans (List.suffix_cons first rest), shape⟩
      cases inside with
      | true => exact later member
      | false =>
          rw [feathers] at member
          split at member
          · rcases List.mem_cons.1 member with rfl | member
            · exact ⟨rest, List.suffix_cons first rest, rfl⟩
            · exact later member
          · exact later member

/-- The runs that make up the angle of a line: those of the magnitudes if there is no angle. -/
def angleRuns (text : Text) : List Text :=
  let runs := feathers false (Text.compact text)
  if (joined runs).angle = [] then runs.map Runs.magnitude else runs.map Runs.angle

/-- Each of them stands in the line. -/
theorem typedIn_of_mem_angleRuns {text run : Text} (member : run ∈ angleRuns text) :
    TypedIn text run := by
  rw [angleRuns] at member
  split at member
  · obtain ⟨runs, found, rfl⟩ := List.mem_map.1 member
    obtain ⟨behind, suffix, rfl⟩ := exists_behind_of_mem_feathers found
    exact ⟨(magnitudeRun_within behind).trans suffix.isInfix,
      fun char => isNumberChar_of_mem_magnitudeRun⟩
  · obtain ⟨runs, found, rfl⟩ := List.mem_map.1 member
    obtain ⟨behind, suffix, rfl⟩ := exists_behind_of_mem_feathers found
    exact ⟨(List.takeWhile_prefix isNumberChar).isInfix.trans suffix.isInfix,
      fun char => isNumberChar_of_mem_takeWhile⟩

theorem angleRuns_flatten (text : Text) :
    (angleRuns text).flatten =
      if (joined (feathers false (Text.compact text))).angle = [] then
        (joined (feathers false (Text.compact text))).magnitude
      else (joined (feathers false (Text.compact text))).angle := by
  rw [angleRuns]
  split <;> simp only [joined, List.flatMap_def]

/-- The angle that is settled at the end is made of these runs together. -/
theorem promoted_angle {text typed : Text} {scan : Scan}
    (scanned : (Text.compact text).foldlM step {} = .ok scan)
    (between : Between (Text.compact text) scan)
    (given : (promote scan.line).angle = some typed) : typed = (angleRuns text).flatten := by
  have made := collected_eq_joined scanned
  rw [angleRuns_flatten, ← made, Scan.collected]
  rw [promote] at given
  cases angle : scan.line.angle with
  | none =>
      simp only [angle, Option.isNone_none, if_true] at given
      simp [given]
  | some first =>
      have nonempty := (between.angle first angle).1
      simp only [angle, Option.isNone_some, Bool.false_eq_true, if_false] at given
      cases given
      rw [Option.getD_some, if_neg nonempty]

/-- What becomes of a typed number: it is limited to its range, or kept if it is no number. -/
def Settles (range : Range) (typed number : Text) : Prop :=
  range.clampValue? typed = some number ∨ Number.read? typed = none ∧ number = typed

instance (range : Range) (typed number : Text) : Decidable (Settles range typed number) :=
  inferInstanceAs (Decidable (_ ∨ _ ∧ _))

theorem settles_of_settle {tolerant : Bool} {range : Range} {reason : Text → Rejection}
    {text : Option Text} {number : Text}
    (settled : settle tolerant range reason text = .ok (some number)) :
    ∃ typed, text = some typed ∧ Settles range typed number := by
  cases text with
  | none => cases settled
  | some typed =>
      refine ⟨typed, rfl, ?_⟩
      rw [settle] at settled
      split at settled
      · rename_i limited
        cases settled
        exact Or.inl limited
      · rename_i missing
        split at settled
        · cases settled
          exact Or.inr ⟨Option.map_eq_none_iff.1 missing, rfl⟩
        · cases settled

/-- Texts of which at most one is not empty are together the one that is not. -/
theorem flatten_mem_of_countP {runs : List Text} (given : runs.flatten ≠ [])
    (once : runs.countP (fun run => !run.isEmpty) ≤ 1) : runs.flatten ∈ runs := by
  have same : (runs.filter fun run => !run.isEmpty).flatten = runs.flatten :=
    List.flatten_filter_not_isEmpty
  rw [List.countP_eq_length_filter] at once
  rcases Nat.le_one_iff_eq_zero_or_eq_one.1 once with none | one
  · rw [← same, List.length_eq_zero_iff.1 none] at given
    exact absurd rfl given
  · obtain ⟨run, shape⟩ := List.length_eq_one_iff.1 one
    have member : run ∈ runs.filter fun run => !run.isEmpty := by simp [shape]
    rw [← same, shape, List.flatten_singleton]
    exact (List.mem_filter.1 member).1

/-- The angle of a line is made of all the runs behind its feathers together, each of which stands
in the line.  So it is a number that was typed if at most one of them is not empty. -/
theorem angle_of_read {tolerant : Bool} {text angle : Text} {line : ActionLine}
    (found : read tolerant text = .ok line) (given : line.angle = some angle) :
    (∀ run ∈ angleRuns text, TypedIn text run) ∧
      Settles Range.angle (angleRuns text).flatten angle ∧
      ((angleRuns text).countP (fun run => !run.isEmpty) ≤ 1 →
        ∃ run, TypedIn text run ∧ Settles Range.angle run angle) := by
  obtain ⟨scan, scanned, _, between, finished⟩ := exists_scan_of_read found
  obtain ⟨_, _, _, settled, _, rfl⟩ := finish_ok finished
  cases given
  obtain ⟨typed, promoted, settles⟩ := settles_of_settle settled
  have nonempty := (between.collected (Or.inl promoted)).1
  obtain rfl := promoted_angle scanned between promoted
  refine ⟨fun run => typedIn_of_mem_angleRuns, settles, fun once => ?_⟩
  exact ⟨_, typedIn_of_mem_angleRuns (flatten_mem_of_countP nonempty once), settles⟩

/-- Behind one feather the number is typed; behind two, one is made of both that stands nowhere in
the line. -/
theorem angle_of_read_joined :
    (read true "1F045RF".toList = .ok ⟨1, ⟨514⟩, some "45".toList, none, ∅⟩ ∧
      ∃ run, TypedIn "1F045RF".toList run ∧ Settles Range.angle run "45".toList) ∧
    read true "1F1RF1".toList = .ok ⟨1, ⟨514⟩, some "11".toList, none, ∅⟩ ∧
      Settles Range.angle (angleRuns "1F1RF1".toList).flatten "11".toList ∧
      ¬∃ run, TypedIn "1F1RF1".toList run ∧ Settles Range.angle run "11".toList := by
  have single : read true "1F045RF".toList = .ok ⟨1, ⟨514⟩, some "45".toList, none, ∅⟩ := by
    decide +kernel
  have double : read true "1F1RF1".toList = .ok ⟨1, ⟨514⟩, some "11".toList, none, ∅⟩ := by
    decide +kernel
  refine ⟨⟨single, (angle_of_read single rfl).2.2 (by decide +kernel)⟩, double,
    (angle_of_read double rfl).2.1, ?_⟩
  rintro ⟨run, typed, settles⟩
  have short : run = [] ∨ run = ['1'] := by
    obtain ⟨part, start, ends⟩ := List.infix_iff_prefix_suffix.1 typed.inside
    have all : ∀ part ∈ (Text.compact "1F1RF1".toList).tails, ∀ run ∈ part.inits,
        run.all isNumberChar = true → run = [] ∨ run = ['1'] := by decide
    exact all part ((List.mem_tails _ _).2 ends) run ((List.mem_inits _ _).2 start)
      (List.all_eq_true.2 typed.numeric)
  rcases short with rfl | rfl
  · exact absurd settles (by decide +kernel)
  · exact absurd settles (by decide +kernel)

end FrameScript.Lenient
