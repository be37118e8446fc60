import FrameScript.Proofs.ActionLine.Counted

/-!
# The numbers of a feather

What a lenient reading makes of the numbers of a feather is told by the characters behind it: a run
of digits and points for the angle, and one behind the next delimiter for the magnitude.  A reading
is rejected for its numbers exactly when what was collected for one of them is not a number.
-/

namespace FrameScript

open Number (Range)
open ActionLine (delimiter)

/-- Whether a character writes the feather. -/
def isFeather (char : Char) : Bool := Tag.ofChar? char == some .feather

theorem Tag.isBlank_of_ofChar? {char : Char} {tag : Tag} (found : ofChar? char = some tag) :
    Text.isBlank char = false := by
  cases blank : Text.isBlank char with
  | false => rfl
  | true =>
      have upper := Text.upper_of_caseless (Text.isCaseless_of_isBlank blank)
      rw [ofChar?_of_upper upper] at found
      rw [← letter_of_ofLetter? found, ActionLine.isBlank_letter] at blank
      cases blank

theorem Tag.ne_delimiter_of_ofChar? {char : Char} {tag : Tag} (found : ofChar? char = some tag) :
    char ≠ delimiter := by
  rintro rfl
  have missing : ofChar? delimiter = none := by decide
  rw [missing] at found
  cases found

/-- A character that writes a tag ends the frame count. -/
theorem Tag.isCountChar_of_ofChar? {char : Char} {tag : Tag} (found : ofChar? char = some tag) :
    Lenient.isCountChar char = false := by
  have other : char.isDigit = false := by
    cases digit : char.isDigit with
    | false => rfl
    | true =>
        rw [Number.ofChar?_of_isNumeralChar (Number.isNumeralChar_of_isDigit digit)] at found
        cases found
  simp [Lenient.isCountChar, other, Tag.ne_delimiter_of_ofChar? found]

theorem Text.countP_compact (text : Text) :
    (Text.compact text).countP isFeather = text.countP isFeather := by
  rw [Text.compact, List.countP_filter]
  refine List.countP_congr fun char _ => ?_
  rw [Bool.and_eq_true]
  refine ⟨And.left, fun feather => ⟨feather, ?_⟩⟩
  rw [Tag.isBlank_of_ofChar? (beq_iff_eq.1 feather)]
  rfl

/-- The numbers of the feather of a line. -/
def ActionLine.numbers (line : ActionLine) : Option Text × Option Text :=
  (line.angle, line.magnitude)

namespace Lenient

theorem step_tag {char : Char} {tag : Tag} (found : Tag.ofChar? char = some tag)
    (count : FrameCount) (line : ActionLine) :
    step ⟨.tag, count, line⟩ char = .ok ⟨modeAfter tag, count, line.hold tag⟩ := by
  simp only [step, dispatch, takeTag, if_neg (Tag.ne_delimiter_of_ofChar? found), found]
  rfl

/-- The modes behind the frame count in which no number is collected. -/
def Idle (mode : Mode) : Prop := mode ≠ .frames ∧ mode ≠ .angle ∧ mode ≠ .magnitude

theorem idle_tag : Idle .tag := ⟨by simp, by simp, by simp⟩

theorem idle_only (restriction : Restriction) : Idle (.only restriction) :=
  ⟨by simp, by simp, by simp⟩

theorem idle_keys : Idle .keys := ⟨by simp, by simp, by simp⟩

theorem Idle.endsField {mode : Mode} (idle : Idle mode) : EndsField mode := ⟨idle.1, idle.2.1⟩

theorem idle_modeAfter {tag : Tag} (plain : tag ≠ .feather) : Idle (modeAfter tag) := by
  cases tag with
  | direction _ => exact idle_tag
  | button _ => exact idle_tag
  | only restriction => exact idle_only restriction
  | keys => exact idle_keys
  | feather => exact absurd rfl plain

theorem takeTag_idle {char : Char} (plain : isFeather char = false) (scan : Scan) :
    Idle (takeTag scan char).mode ∧ (takeTag scan char).line.numbers = scan.line.numbers := by
  rcases takeTag_cases scan char with passed | ⟨tag, _, found, taken⟩
  · rw [passed]
    exact ⟨idle_tag, rfl⟩
  · rw [taken]
    refine ⟨idle_modeAfter ?_, rfl⟩
    rintro rfl
    simp [isFeather, found] at plain

/-- A character other than the feather starts no number. -/
theorem Reads.idle {char : Char} {scan next : Scan} (reads : Reads char scan next)
    (plain : isFeather char = false) (idle : Idle scan.mode) :
    Idle next.mode ∧ next.line.numbers = scan.line.numbers := by
  cases reads with
  | tag => exact takeTag_idle plain scan
  | direction => exact ⟨idle, rfl⟩
  | key => exact ⟨idle, rfl⟩
  | angle => exact absurd rfl idle.2.1
  | angleEnd => exact absurd rfl idle.2.1
  | magnitude => exact absurd rfl idle.2.2

/-- Characters other than the feather leave the numbers as they are. -/
theorem foldlM_idle {text : Text} (plain : ∀ char ∈ text, isFeather char = false) {scan : Scan}
    (idle : Idle scan.mode) :
    ∃ last, text.foldlM step scan = .ok last ∧ Idle last.mode ∧
      last.line.numbers = scan.line.numbers := by
  induction text generalizing scan with
  | nil => exact ⟨scan, rfl, idle, rfl⟩
  | cons first rest ih =>
      obtain ⟨next, taken, reads⟩ := exists_reads idle.1 first
      obtain ⟨nextIdle, same⟩ := reads.idle (plain first (by simp)) idle
      obtain ⟨last, scanned, lastIdle, later⟩ :=
        ih (fun char member => plain char (by simp [member])) nextIdle
      refine ⟨last, ?_, lastIdle, later.trans same⟩
      rw [foldlM_cons_of_ok taken, scanned]

/-! ## The runs of digits and points behind a feather -/

/-- The characters that are collected as an angle at the start of a text. -/
def angleRun (text : Text) : Text := text.takeWhile isNumberChar

/-- The characters that are collected as a magnitude, behind the delimiter that ends the angle. -/
def magnitudeRun (text : Text) : Text :=
  match text.dropWhile isNumberChar with
  | [] => []
  | first :: rest => if first = delimiter then rest.takeWhile isNumberChar else []

theorem angleRun_delimiter (rest : Text) : angleRun (delimiter :: rest) = [] := rfl

theorem magnitudeRun_delimiter (rest : Text) :
    magnitudeRun (delimiter :: rest) = rest.takeWhile isNumberChar := rfl

/-- The number that is collected from a run of digits and points. -/
def collected (run : Text) : Option Text := if run = [] then none else some run

theorem collected_eq_some_iff {run number : Text} :
    collected run = some number ↔ run ≠ [] ∧ run = number := by
  rw [collected]
  split
  · rename_i vacant
    simp [vacant]
  · rename_i given
    simp [given]

theorem isNumberChar_of_mem_takeWhile {text : Text} {char : Char}
    (member : char ∈ text.takeWhile isNumberChar) : isNumberChar char = true :=
  List.all_eq_true.1 List.all_takeWhile char member

theorem isNumberChar_of_mem_magnitudeRun {text : Text} {char : Char}
    (member : char ∈ magnitudeRun text) : isNumberChar char = true := by
  rw [magnitudeRun] at member
  split at member
  · cases member
  · split at member
    · exact isNumberChar_of_mem_takeWhile member
    · cases member

theorem foldl_extend_some (run before : Text) :
    run.foldl extend (some before) = some (before ++ run) := by
  induction run generalizing before with
  | nil => simp
  | cons first rest ih =>
      have next : extend (some before) first = some (before ++ [first]) := rfl
      rw [List.foldl_cons, next, ih, List.append_assoc, List.singleton_append]

theorem foldl_extend_none (run : Text) : run.foldl extend none = collected run := by
  cases run with
  | nil => rfl
  | cons first rest =>
      have next : extend none first = some [first] := rfl
      rw [List.foldl_cons, next, foldl_extend_some, collected, if_neg (List.cons_ne_nil _ _)]
      rfl

theorem ne_delimiter_of_isNumberChar {char : Char} (number : isNumberChar char = true) :
    char ≠ delimiter := by
  rintro rfl
  revert number
  decide

theorem foldlM_angleChars {run : Text} (numbers : ∀ char ∈ run, isNumberChar char = true)
    (count : FrameCount) (line : ActionLine) :
    run.foldlM step ⟨.angle, count, line⟩ =
      .ok ⟨.angle, count, { line with angle := run.foldl extend line.angle }⟩ := by
  refine foldlM_of_ok (fun angle => (⟨.angle, count, { line with angle }⟩ : Scan)) extend
    (fun char member angle => ?_) line.angle
  have number := numbers char member
  simp only [step, dispatch, if_neg (ne_delimiter_of_isNumberChar number), if_pos number]
  rfl

theorem foldlM_magnitudeChars {run : Text} (numbers : ∀ char ∈ run, isNumberChar char = true)
    (count : FrameCount) (line : ActionLine) :
    run.foldlM step ⟨.magnitude, count, line⟩ =
      .ok ⟨.magnitude, count, { line with magnitude := run.foldl extend line.magnitude }⟩ := by
  refine foldlM_of_ok (fun magnitude => (⟨.magnitude, count, { line with magnitude }⟩ : Scan))
    extend (fun char member magnitude => ?_) line.magnitude
  have number := numbers char member
  simp only [step, dispatch, if_neg (ne_delimiter_of_isNumberChar number), if_pos number]
  rfl

theorem step_angle_of_other {char : Char} (other : isNumberChar char = false)
    (undivided : char ≠ delimiter) (count : FrameCount) (line : ActionLine) :
    step ⟨.angle, count, line⟩ char = .ok (takeTag ⟨.tag, count, line⟩ char) := by
  simp only [step, dispatch, if_neg undivided, other]
  rfl

theorem step_magnitude_of_other {char : Char} (other : isNumberChar char = false)
    (count : FrameCount) (line : ActionLine) :
    step ⟨.magnitude, count, line⟩ char = .ok (takeTag ⟨.tag, count, line⟩ char) := by
  by_cases divides : char = delimiter
  · subst divides
    rfl
  · simp only [step, dispatch, if_neg divides, other]
    rfl

/-- The character behind a run of digits and points is no part of it. -/
theorem isNumberChar_of_dropWhile {text rest : Text} {first : Char}
    (behind : text.dropWhile isNumberChar = first :: rest) : isNumberChar first = false := by
  have stops := List.head_dropWhile_not isNumberChar (l := text) (by simp [behind])
  simpa [behind] using stops

section

variable {text : Text} (plain : ∀ char ∈ text, isFeather char = false) (count : FrameCount)
  (line : ActionLine)

include plain

theorem plain_of_dropWhile {rest : Text} {first : Char}
    (behind : text.dropWhile isNumberChar = first :: rest) :
    isFeather first = false ∧ ∀ char ∈ rest, isFeather char = false := by
  have inside : ∀ char ∈ first :: rest, char ∈ text := by
    rw [← behind]
    exact fun char member => (List.dropWhile_sublist _).subset member
  exact ⟨plain first (inside first (by simp)),
    fun char member => plain char (inside char (by simp [member]))⟩

/-- Behind a character that ends the numbers of a feather these stay as they are. -/
theorem foldlM_takeTag_of_dropWhile {rest : Text} {first : Char}
    (behind : text.dropWhile isNumberChar = first :: rest) :
    ∃ last, rest.foldlM step (takeTag ⟨.tag, count, line⟩ first) = .ok last ∧
      last.mode ≠ .frames ∧ last.line.numbers = line.numbers := by
  obtain ⟨plainFirst, plainRest⟩ := plain_of_dropWhile plain behind
  obtain ⟨idle, same⟩ := takeTag_idle plainFirst ⟨.tag, count, line⟩
  obtain ⟨last, scanned, lastIdle, later⟩ := foldlM_idle plainRest idle
  exact ⟨last, scanned, lastIdle.1, later.trans same⟩

/-- Behind the delimiter that ends an angle a run of digits and points is the magnitude. -/
theorem foldlM_of_magnitude :
    ∃ last, text.foldlM step ⟨.magnitude, count, line⟩ = .ok last ∧ last.mode ≠ .frames ∧
      last.line.numbers =
        (line.angle, (text.takeWhile isNumberChar).foldl extend line.magnitude) := by
  have inside : ∀ char ∈ text.takeWhile isNumberChar, isNumberChar char = true :=
    fun char => isNumberChar_of_mem_takeWhile
  have run := foldlM_magnitudeChars inside count line
  have parts : text.takeWhile isNumberChar ++ text.dropWhile isNumberChar = text :=
    List.takeWhile_append_dropWhile
  generalize (text.takeWhile isNumberChar).foldl extend line.magnitude = magnitude at run ⊢
  cases behind : text.dropWhile isNumberChar with
  | nil =>
      rw [behind, List.append_nil] at parts
      rw [parts] at run
      exact ⟨_, run, by simp, rfl⟩
  | cons first rest =>
      have leaves := step_magnitude_of_other (isNumberChar_of_dropWhile behind) count
        { line with magnitude }
      rw [← parts, behind, foldlM_append_of_ok run, foldlM_cons_of_ok leaves]
      exact foldlM_takeTag_of_dropWhile plain count { line with magnitude } behind

/-- Behind a feather the two runs of digits and points are its numbers. -/
theorem foldlM_of_angle :
    ∃ last, text.foldlM step ⟨.angle, count, line⟩ = .ok last ∧ last.mode ≠ .frames ∧
      last.line.numbers =
        ((angleRun text).foldl extend line.angle,
          (magnitudeRun text).foldl extend line.magnitude) := by
  have inside : ∀ char ∈ text.takeWhile isNumberChar, isNumberChar char = true :=
    fun char => isNumberChar_of_mem_takeWhile
  have run := foldlM_angleChars inside count line
  have parts : text.takeWhile isNumberChar ++ text.dropWhile isNumberChar = text :=
    List.takeWhile_append_dropWhile
  rw [magnitudeRun, angleRun]
  generalize (text.takeWhile isNumberChar).foldl extend line.angle = angle at run ⊢
  cases behind : text.dropWhile isNumberChar with
  | nil =>
      rw [behind, List.append_nil] at parts
      rw [parts] at run
      exact ⟨_, run, by simp, rfl⟩
  | cons first rest =>
      rw [← parts, behind, foldlM_append_of_ok run]
      dsimp only
      split
      · rename_i divides
        have ends : step ⟨.angle, count, { line with angle }⟩ first =
            .ok ⟨.magnitude, count, { line with angle }⟩ := by
          rw [divides]
          rfl
        rw [foldlM_cons_of_ok ends]
        exact foldlM_of_magnitude (plain_of_dropWhile plain behind).2 count { line with angle }
      · rename_i undivided
        have leaves := step_angle_of_other (isNumberChar_of_dropWhile behind) undivided count
          { line with angle }
        rw [foldlM_cons_of_ok leaves]
        exact foldlM_takeTag_of_dropWhile plain count { line with angle } behind

end

/-- The characters behind the first feather of a line. -/
def behindFeather (text : Text) : Text :=
  ((Text.compact text).dropWhile fun char => !isFeather char).tail

theorem takeWhile_field (token : Text) (after : List Text) :
    (token ++ after.flatMap fun field => delimiter :: field).takeWhile isNumberChar =
      token.takeWhile isNumberChar := by
  have stops : (after.flatMap fun field => delimiter :: field).takeWhile isNumberChar = [] := by
    cases after with
    | nil => rfl
    | cons first rest => rfl
  rw [List.takeWhile_append, stops]
  split
  · rename_i whole
    rw [List.append_nil]
    exact ((List.takeWhile_prefix isNumberChar).eq_of_length whole).symm
  · rfl

/-- In front of a feather that opens a field no number is collected and a tag is expected. -/
theorem foldlM_start {start : Text} (plain : ∀ char ∈ start, isFeather char = false)
    (count : FrameCount) (line : ActionLine) :
    ∃ count' line',
      ((start ++ [delimiter]).dropWhile isCountChar).foldlM step ⟨.tag, count, line⟩ =
        .ok ⟨.tag, count', line'⟩ ∧ line'.numbers = line.numbers := by
  have passed : [delimiter].dropWhile isCountChar = [] := rfl
  rw [List.dropWhile_append, passed]
  split
  · exact ⟨count, line, rfl, rfl⟩
  · have inside : ∀ char ∈ start.dropWhile isCountChar, isFeather char = false := fun char member =>
      plain char ((List.dropWhile_sublist _).subset member)
    have idle : Idle (⟨.tag, count, line⟩ : Scan).mode := idle_tag
    obtain ⟨⟨mode, count', line'⟩, scanned, lastIdle, same⟩ := foldlM_idle inside idle
    refine ⟨count', line', ?_, same⟩
    rw [foldlM_append_of_ok scanned,
      foldlM_cons_of_ok (step_delimiter lastIdle.endsField count' line')]
    rfl

/-- A text with one feather, which opens a field. -/
structure Single (text start : Text) (feather : Char) (behind : Text) : Prop where
  shape : Text.compact text = start ++ [delimiter] ++ feather :: behind
  writes : Tag.ofChar? feather = some .feather
  plainStart : ∀ char ∈ start, isFeather char = false
  plainBehind : ∀ char ∈ behind, isFeather char = false

theorem single_of_countP {text start behind : Text} {feather : Char}
    (shape : Text.compact text = start ++ [delimiter] ++ feather :: behind)
    (writes : Tag.ofChar? feather = some .feather) (once : text.countP isFeather = 1) :
    Single text start feather behind := by
  have counted : start.countP isFeather = 0 ∧ behind.countP isFeather = 0 := by
    have here : isFeather feather = true := beq_iff_eq.2 writes
    rw [← Text.countP_compact, shape, List.countP_append, List.countP_append,
      List.countP_cons_of_pos here] at once
    omega
  exact ⟨shape, writes,
    fun char member => Bool.eq_false_iff.2 (List.countP_eq_zero.1 counted.1 char member),
    fun char member => Bool.eq_false_iff.2 (List.countP_eq_zero.1 counted.2 char member)⟩

namespace Single

variable {text start behind : Text} {feather : Char} (single : Single text start feather behind)

include single

theorem behindFeather_eq : behindFeather text = behind := by
  have front : ∀ char ∈ start ++ [delimiter], (!isFeather char) = true := by
    intro char member
    rcases List.mem_append.1 member with inside | last
    · rw [single.plainStart char inside]
      rfl
    · rw [List.mem_singleton.1 last]
      decide
  rw [behindFeather, single.shape, List.dropWhile_append_of_pos front,
    List.dropWhile_cons_of_neg (by simp [isFeather, single.writes]), List.tail_cons]

theorem dropWhile_compact :
    (Text.compact text).dropWhile isCountChar =
      (start ++ [delimiter]).dropWhile isCountChar ++ feather :: behind := by
  have other := Tag.isCountChar_of_ofChar? single.writes
  rw [single.shape, List.dropWhile_append, List.dropWhile_cons_of_neg (by simp [other])]
  split
  · rename_i vacant
    rw [List.isEmpty_iff.1 vacant, List.nil_append]
  · rfl

/-- The two runs behind the feather are the numbers of the line. -/
theorem exists_scan (ended : countPart text ≠ Text.compact text) (given : countDigits text ≠ [])
    (within : (countDigits text).length ≤ digitLimit) :
    ∃ scan, (Text.compact text).foldlM step {} = .ok scan ∧ scan.mode ≠ .frames ∧
      scan.line.numbers = (collected (angleRun behind), collected (magnitudeRun behind)) := by
  obtain ⟨count, line, scanned, unnumbered⟩ := foldlM_start single.plainStart
    (.ofDigits (countDigits text)) { frames := Number.digitsValue (countDigits text) }
  have taken : step ⟨.tag, count, line⟩ feather =
      .ok ⟨.angle, count, line.hold (.tag .feather)⟩ :=
    step_tag single.writes count line
  obtain ⟨last, behindScanned, started, numbers⟩ :=
    foldlM_of_angle single.plainBehind count (line.hold (.tag .feather))
  refine ⟨last, ?_, started, ?_⟩
  · rw [foldlM_of_counted ended given within, single.dropWhile_compact,
      foldlM_append_of_ok scanned, foldlM_cons_of_ok taken, behindScanned]
  · obtain ⟨angle, magnitude⟩ := Prod.mk.inj unnumbered
    rw [numbers, ← foldl_extend_none, ← foldl_extend_none]
    simp only [ActionLine.hold, angle, magnitude]

end Single

theorem settle_intolerant_iff {range : Range} {reason : Text → Rejection} {text : Option Text} :
    (∃ result, settle false range reason text = .ok result) ↔
      ∀ number, text = some number → (Number.read? number).isSome = true := by
  cases text with
  | none => simp [settle]
  | some number => cases found : Number.read? number <;> simp [settle, Range.clampValue?, found]

theorem promote_given_iff {line : ActionLine} {number : Text} :
    ((promote line).angle = some number ∨ (promote line).magnitude = some number) ↔
      line.angle = some number ∨ line.magnitude = some number := by
  refine ⟨promote_given, fun given => ?_⟩
  rw [promote]
  cases angle : line.angle with
  | none => simpa [angle] using given
  | some number => simpa [angle] using given

/-- At the end every number that was collected has to be a number. -/
theorem exists_finish_iff {scan : Scan} (started : scan.mode ≠ .frames) :
    (∃ line, finish false scan = .ok line) ↔
      ∀ number, scan.line.angle = some number ∨ scan.line.magnitude = some number →
        (Number.read? number).isSome = true := by
  constructor
  · rintro ⟨line, finished⟩ number given
    obtain ⟨_, angle, magnitude, angles, magnitudes, _⟩ := finish_ok finished
    rcases promote_given_iff.2 given with here | here
    · exact settle_intolerant_iff.1 ⟨angle, angles⟩ number here
    · exact settle_intolerant_iff.1 ⟨magnitude, magnitudes⟩ number here
  · intro valid
    obtain ⟨angle, angles⟩ := settle_intolerant_iff.2 fun number here =>
      valid number (promote_given_iff.1 (Or.inl here))
    obtain ⟨magnitude, magnitudes⟩ := settle_intolerant_iff.2 fun number here =>
      valid number (promote_given_iff.1 (Or.inr here))
    exact ⟨_, finish_of_settled started angles magnitudes⟩

theorem finish_cases {scan : Scan} (started : scan.mode ≠ .frames) :
    (∃ line, finish false scan = .ok line) ∨
      ∃ reason, finish false scan = .error (.rejected reason) := by
  have refused {range : Range} {reason : Text → Rejection} {text : Option Text}
      {refusal : Refusal} (failed : settle false range reason text = .error refusal) :
      ∃ reason, refusal = .rejected reason := by
    cases text with
    | none => cases failed
    | some number =>
        rw [settle] at failed
        split at failed
        · cases failed
        · cases failed
          exact ⟨_, rfl⟩
  cases angles : settle false Range.angle .invalidAngle (promote scan.line).angle with
  | error refusal =>
      obtain ⟨reason, rfl⟩ := refused angles
      refine Or.inr ⟨reason, ?_⟩
      simp only [finish, if_neg started, angles]
      rfl
  | ok angle =>
      cases magnitudes : settle false Range.magnitude .invalidMagnitude
          (promote scan.line).magnitude with
      | error refusal =>
          obtain ⟨reason, rfl⟩ := refused magnitudes
          refine Or.inr ⟨reason, ?_⟩
          simp only [finish, if_neg started, angles, magnitudes]
          rfl
      | ok magnitude => exact Or.inl ⟨_, finish_of_settled started angles magnitudes⟩

variable {text : Text} {scan : Scan}

/-- A reading is rejected for its numbers exactly when one that was collected is not a number. -/
theorem rejected_iff (scanned : (Text.compact text).foldlM step {} = .ok scan)
    (started : scan.mode ≠ .frames) :
    (∃ reason, read false text = .error (.rejected reason)) ↔
      ∃ number, (scan.line.angle = some number ∨ scan.line.magnitude = some number) ∧
        Number.read? number = none := by
  have ends : read false text = finish false scan := by
    rw [read, scanned]
    rfl
  rw [ends]
  constructor
  · rintro ⟨reason, rejected⟩
    by_contra valid
    obtain ⟨line, finished⟩ := (exists_finish_iff started).2 fun number given =>
      Option.isSome_iff_ne_none.2 fun missing => valid ⟨number, given, missing⟩
    rw [finished] at rejected
    cases rejected
  · rintro ⟨number, given, missing⟩
    rcases finish_cases started with finished | rejected
    · have found := (exists_finish_iff started).1 finished number given
      rw [missing] at found
      cases found
    · exact rejected

theorem settle_of_invalid (range : Range) (reason : Text → Rejection) {number : Text}
    (missing : Number.read? number = none) :
    settle true range reason (some number) = .ok (some number) := by
  simp [settle, Range.clampValue?, missing]

/-- What was collected but is no number is kept in a line that is finished nevertheless. -/
theorem kept_of_finish {line : ActionLine} (finished : finish true scan = .ok line) {number : Text}
    (given : scan.line.angle = some number ∨ scan.line.magnitude = some number)
    (missing : Number.read? number = none) :
    line.angle = some number ∨ line.magnitude = some number := by
  obtain ⟨_, angle, magnitude, angles, magnitudes, rfl⟩ := finish_ok finished
  rcases promote_given_iff.2 given with here | here
  · rw [here, settle_of_invalid _ _ missing] at angles
    cases angles
    exact Or.inl rfl
  · rw [here, settle_of_invalid _ _ missing] at magnitudes
    cases magnitudes
    exact Or.inr rfl

/-- A reading is rejected for its numbers exactly when the line that is read with invalid numbers
tolerated has a number that is none. -/
theorem rejected_iff_not_numeric {line : ActionLine} (found : read true text = .ok line) :
    (∃ reason, read false text = .error (.rejected reason)) ↔ ¬line.Numeric := by
  obtain ⟨scan, scanned, started, between, finished⟩ := exists_scan_of_read found
  rw [rejected_iff scanned started]
  constructor
  · rintro ⟨number, given, missing⟩ numeric
    have collected := between.collected (promote_given_iff.2 given)
    have valid := numeric number (kept_of_finish finished given missing) collected.1
    rw [missing] at valid
    cases valid
  · intro invalid
    by_contra none
    obtain ⟨other, done⟩ := (exists_finish_iff started).2 fun number given =>
      Option.isSome_iff_ne_none.2 fun missing => none ⟨number, given, missing⟩
    have checked : read false text = .ok other := by
      rw [read, scanned]
      exact done
    have same := read_tolerant checked
    rw [found] at same
    cases same
    exact invalid ((parsed_of_read checked).2 rfl).numeric

end Lenient

end FrameScript
