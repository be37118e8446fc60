import FrameScript.Proofs.ActionLine.Parsed

/-!
# Lines read character by character

One character keeps what holds between two characters, whichever mode takes it or hands it over,
so a whole lenient reading keeps it by induction over the characters.  Its numbers are settled at
the end only: there they are limited to their range, or kept as they are if that is tolerated.
-/

namespace FrameScript

open Number (Range)

namespace Lenient

open ActionLine

variable {source : Text}

/-- The tag behind which a mode takes its characters. -/
def opener? : Mode → Option Tag
  | .only restriction => some (.only restriction)
  | .keys => some .keys
  | .angle => some .feather
  | .magnitude => some .feather
  | _ => none

/-- A text of digits and points with at least one of them. -/
def Collected (text : Text) : Prop := text ≠ [] ∧ ∀ char ∈ text, isNumberChar char = true

/-- What holds between two characters. -/
structure Between (source : Text) (scan : Scan) : Prop where
  consistent : scan.line.Consistent source
  bounded : scan.count.Bounded
  framed : scan.mode ≠ .frames → Framed scan.line
  opener : ∀ tag, opener? scan.mode = some tag → scan.line.held.contains (.tag tag) = true
  angle : ∀ text, scan.line.angle = some text → Collected text
  magnitude : ∀ text, scan.line.magnitude = some text → Collected text

theorem between_start (source : Text) : Between source {} :=
  ⟨consistent_start source 0, FrameCount.bounded_empty, fun other => absurd rfl other,
    fun _ opens => (by cases opens), by simp, by simp⟩

theorem collected_extend {text : Option Text} (collected : ∀ before, text = some before →
    Collected before) {char : Char} (number : isNumberChar char = true) :
    ∀ after, extend text char = some after → Collected after := by
  intro after shape
  cases text with
  | none =>
      cases shape
      exact ⟨by simp, by simpa using number⟩
  | some before =>
      cases shape
      refine ⟨by simp, fun other member => ?_⟩
      rcases List.mem_append.1 member with inside | last
      · exact (collected before rfl).2 other inside
      · rwa [List.mem_singleton.1 last]

theorem opener?_modeAfter {tag opener : Tag} (opens : opener? (modeAfter tag) = some opener) :
    opener = tag := by
  cases tag <;> simp_all [modeAfter, opener?]

theorem Between.passed {scan : Scan} (between : Between source scan)
    (framed : Framed scan.line) : Between source { scan with mode := .tag } :=
  ⟨between.consistent, between.bounded, fun _ => framed, fun _ opens => (by cases opens),
    between.angle, between.magnitude⟩

theorem Between.takeTag {scan : Scan} (between : Between source scan) (framed : Framed scan.line)
    (char : Char) : Between source (takeTag scan char) := by
  rw [Lenient.takeTag]
  split
  · exact between.passed framed
  · split
    · rename_i tag _
      refine ⟨between.consistent.hold tag, between.bounded, fun _ => framed, ?_, between.angle,
        between.magnitude⟩
      intro opener opens
      rw [opener?_modeAfter opens]
      exact contains_hold_self _ _
    · exact between.passed framed

/-- What holds after a mode has looked at a character. -/
def Dispatched (source : Text) : Dispatch → Prop
  | .taken scan => Between source scan
  | .handedOver scan => Between source scan ∧ Framed scan.line

section

variable {count : FrameCount} {line : ActionLine} {char : Char} {result : Dispatch}

theorem Between.dispatch_frames (between : Between source ⟨.frames, count, line⟩)
    (done : dispatch ⟨.frames, count, line⟩ char = .ok result) : Dispatched source result := by
  simp only [Lenient.dispatch] at done
  split at done
  · rename_i digit
    cases done
    exact ⟨between.consistent, between.bounded.push digit, between.framed, between.opener,
      between.angle, between.magnitude⟩
  split at done
  · cases done
    exact between
  split at done
  · cases done
  rename_i given
  cases converted : count.checked with
  | error fault =>
      simp only [converted] at done
      cases done
  | ok frames =>
      simp only [converted] at done
      cases done
      have framed := FrameCount.length_ofNat_le between.bounded given converted
      refine ⟨⟨between.consistent.withFrames _, between.bounded, fun _ => ⟨frames, rfl, framed⟩,
        ?_, between.angle, between.magnitude⟩, ⟨frames, rfl, framed⟩⟩
      intro tag opens
      cases opens

theorem Between.dispatch_only {restriction : Restriction}
    (between : Between source ⟨.only restriction, count, line⟩)
    (done : dispatch ⟨.only restriction, count, line⟩ char = .ok result) :
    Dispatched source result := by
  have framed := between.framed (by simp)
  simp only [Lenient.dispatch] at done
  split at done
  · cases done
    exact between.passed framed
  split at done
  · cases done
    have opener := between.opener (.only restriction) rfl
    refine ⟨between.consistent.holdRestricted opener _, between.bounded, fun _ => framed, ?_,
      between.angle, between.magnitude⟩
    intro tag opens
    exact contains_hold_of_contains (between.opener tag opens) _
  · cases done
    exact ⟨between.passed framed, framed⟩

theorem Between.dispatch_keys (between : Between source ⟨.keys, count, line⟩)
    (inside : char ∈ source) (done : dispatch ⟨.keys, count, line⟩ char = .ok result) :
    Dispatched source result := by
  have framed := between.framed (by simp)
  simp only [Lenient.dispatch] at done
  split at done
  · cases done
    exact between.passed framed
  · rename_i different
    cases done
    have opener := between.opener .keys rfl
    refine ⟨between.consistent.withKeys opener fun key member => ?_, between.bounded,
      fun _ => framed, between.opener, between.angle, between.magnitude⟩
    rcases KeySet.mem_insert.1 member with rfl | before
    · exact ⟨char, inside, different, rfl⟩
    · exact between.consistent.written key before

theorem Between.dispatch_angle (between : Between source ⟨.angle, count, line⟩)
    (done : dispatch ⟨.angle, count, line⟩ char = .ok result) : Dispatched source result := by
  have framed := between.framed (by simp)
  have opener := between.opener .feather rfl
  simp only [Lenient.dispatch] at done
  split at done
  · cases done
    refine ⟨between.consistent, between.bounded, fun _ => framed, ?_, between.angle,
      between.magnitude⟩
    intro tag opens
    cases opens
    exact opener
  split at done
  · rename_i number
    cases done
    exact ⟨between.consistent.withNumbers (fun _ => opener), between.bounded, fun _ => framed,
      between.opener, collected_extend between.angle number, between.magnitude⟩
  · cases done
    exact ⟨between.passed framed, framed⟩

theorem Between.dispatch_magnitude (between : Between source ⟨.magnitude, count, line⟩)
    (done : dispatch ⟨.magnitude, count, line⟩ char = .ok result) : Dispatched source result := by
  have framed := between.framed (by simp)
  have opener := between.opener .feather rfl
  simp only [Lenient.dispatch] at done
  split at done
  · cases done
    exact between.passed framed
  split at done
  · rename_i number
    cases done
    exact ⟨between.consistent.withNumbers (fun _ => opener), between.bounded, fun _ => framed,
      between.opener, between.angle, collected_extend between.magnitude number⟩
  · cases done
    exact ⟨between.passed framed, framed⟩

/-- Every mode keeps what holds between two characters. -/
theorem Between.dispatch {scan : Scan} (between : Between source scan) (inside : char ∈ source)
    (done : dispatch scan char = .ok result) : Dispatched source result := by
  obtain ⟨mode, count, line⟩ := scan
  cases mode with
  | frames => exact between.dispatch_frames done
  | tag =>
      cases done
      exact between.takeTag (between.framed (by simp)) char
  | only restriction => exact between.dispatch_only done
  | keys => exact between.dispatch_keys inside done
  | angle => exact between.dispatch_angle done
  | magnitude => exact between.dispatch_magnitude done

end

/-- One character keeps what holds between two characters. -/
theorem Between.step {scan next : Scan} {char : Char} (between : Between source scan)
    (inside : char ∈ source) (taken : step scan char = .ok next) : Between source next := by
  rw [Lenient.step] at taken
  cases done : Lenient.dispatch scan char with
  | error refusal =>
      rw [done] at taken
      cases taken
  | ok result =>
      rw [done] at taken
      have dispatched := between.dispatch inside done
      cases result with
      | taken scan =>
          cases taken
          exact dispatched
      | handedOver scan =>
          cases taken
          exact dispatched.1.takeTag dispatched.2 char

/-- A collected number is limited to its range, or kept as it is when that is tolerated. -/
theorem settle_ok {tolerant : Bool} {range : Range} (proper : range.Proper)
    {reason : Text → Rejection} {text result : Option Text}
    (collected : ∀ number, text = some number → Collected number)
    (settled : settle tolerant range reason text = .ok result) :
    (result = none ↔ text = none) ∧
      ∀ number, result = some number → range.Admits number ∨ tolerant = true ∧ Kept number := by
  cases text with
  | none =>
      cases settled
      exact ⟨Iff.rfl, by simp⟩
  | some before =>
      rw [settle] at settled
      split at settled
      · rename_i found
        cases settled
        refine ⟨by simp, fun number shape => ?_⟩
        cases shape
        exact Or.inl (proper.admits_of_clampValue? found)
      · rename_i missing
        split at settled
        · rename_i tolerated
          cases settled
          refine ⟨by simp, fun number shape => ?_⟩
          cases shape
          obtain ⟨given, chars⟩ := collected before rfl
          exact Or.inr ⟨tolerated, given, Option.map_eq_none_iff.1 missing, chars⟩
        · cases settled

theorem promote_eq (line : ActionLine) :
    promote line =
      { line with angle := (promote line).angle, magnitude := (promote line).magnitude } := by
  rw [promote]
  split <;> rfl

/-- After a lone magnitude has become the angle, there is no magnitude without one. -/
theorem promote_angled (line : ActionLine) (given : (promote line).magnitude ≠ none) :
    (promote line).angle ≠ none := by
  rw [promote] at given ⊢
  cases angle : line.angle with
  | none => simp [angle] at given
  | some number => simp [angle]

theorem promote_given {line : ActionLine} {number : Text}
    (given : (promote line).angle = some number ∨ (promote line).magnitude = some number) :
    line.angle = some number ∨ line.magnitude = some number := by
  rw [promote] at given
  split at given
  · rcases given with angle | magnitude
    · exact Or.inr angle
    · cases magnitude
  · exact given

/-- The end of the characters: the numbers are settled one after the other. -/
theorem finish_ok {tolerant : Bool} {scan : Scan} {line : ActionLine}
    (done : finish tolerant scan = .ok line) :
    scan.mode ≠ .frames ∧ ∃ angle magnitude,
      settle tolerant Range.angle .invalidAngle (promote scan.line).angle = .ok angle ∧
      settle tolerant Range.magnitude .invalidMagnitude (promote scan.line).magnitude =
        .ok magnitude ∧
      line = { scan.line with angle, magnitude } := by
  rw [finish] at done
  split at done
  · cases done
  · rename_i started
    refine ⟨started, ?_⟩
    cases angle : settle tolerant Range.angle .invalidAngle (promote scan.line).angle with
    | error refusal =>
        simp only [angle] at done
        cases done
    | ok first =>
        cases magnitude : settle tolerant Range.magnitude .invalidMagnitude
            (promote scan.line).magnitude with
        | error refusal =>
            simp only [angle, magnitude] at done
            cases done
        | ok second =>
            simp only [angle, magnitude] at done
            cases done
            refine ⟨first, second, rfl, rfl, ?_⟩
            rw [promote_eq]

theorem Between.collected {scan : Scan} (between : Between source scan) {number : Text}
    (given : (promote scan.line).angle = some number ∨
      (promote scan.line).magnitude = some number) : Collected number := by
  rcases promote_given given with before | before
  · exact between.angle number before
  · exact between.magnitude number before

theorem Between.feathered {scan : Scan} (between : Between source scan)
    (given : (promote scan.line).angle ≠ none ∨ (promote scan.line).magnitude ≠ none) :
    scan.line.held.contains (.tag .feather) = true := by
  apply between.consistent.feathered
  rcases given with given | given
  · obtain ⟨number, shape⟩ := Option.ne_none_iff_exists'.1 given
    rcases promote_given (Or.inl shape) with before | before <;> simp [before]
  · obtain ⟨number, shape⟩ := Option.ne_none_iff_exists'.1 given
    rcases promote_given (Or.inr shape) with before | before <;> simp [before]

/-- At the end each number is in its range, or is kept as it is when that is tolerated. -/
theorem Between.finish_numbers {scan : Scan} {tolerant : Bool} {line : ActionLine}
    (between : Between source scan) (done : finish tolerant scan = .ok line) :
    (∀ number, line.angle = some number →
        Range.angle.Admits number ∨ tolerant = true ∧ Kept number) ∧
      ∀ number, line.magnitude = some number →
        Range.magnitude.Admits number ∨ tolerant = true ∧ Kept number := by
  obtain ⟨_, angle, magnitude, angleSettled, magnitudeSettled, rfl⟩ := finish_ok done
  exact ⟨(settle_ok Range.proper_angle
      (fun number given => between.collected (Or.inl given)) angleSettled).2,
    (settle_ok Range.proper_magnitude
      (fun number given => between.collected (Or.inr given)) magnitudeSettled).2⟩

/-- The line at the end has its numbers in range if invalid ones are rejected. -/
theorem Between.finish {scan : Scan} {tolerant : Bool} {line : ActionLine}
    (between : Between source scan) (done : finish tolerant scan = .ok line) :
    line.Parsed source ∧ (tolerant = false → line.InRange) := by
  obtain ⟨angles, magnitudes⟩ := between.finish_numbers done
  obtain ⟨started, angle, magnitude, angleSettled, magnitudeSettled, rfl⟩ := finish_ok done
  have angleNone := (settle_ok Range.proper_angle
    (fun number given => between.collected (Or.inl given)) angleSettled).1
  have magnitudeNone := (settle_ok Range.proper_magnitude
    (fun number given => between.collected (Or.inr given)) magnitudeSettled).1
  have feather : angle ≠ none ∨ magnitude ≠ none →
      scan.line.held.contains (.tag .feather) = true := by
    rw [Ne, angleNone, Ne, magnitudeNone]
    exact between.feathered
  refine ⟨⟨between.consistent.withNumbers feather, between.framed started, ?_, ?_, ?_⟩, ?_⟩
  · intro given missing
    exact promote_angled scan.line (mt magnitudeNone.2 given) (angleNone.1 missing)
  · intro number given
    exact (angles number given).imp_right And.right
  · intro number given
    exact Or.inr ((magnitudes number given).imp_right And.right)
  · rintro rfl
    constructor
    · intro number given
      rcases angles number given with admitted | ⟨tolerated, _⟩
      · exact admitted
      · cases tolerated
    · intro number given
      rcases magnitudes number given with admitted | ⟨tolerated, _⟩
      · exact Or.inr admitted
      · cases tolerated

/-- A reading comes to its end before its numbers are settled. -/
theorem exists_scan_of_read {tolerant : Bool} {text : Text} {line : ActionLine}
    (found : read tolerant text = .ok line) :
    ∃ scan, (Text.compact text).foldlM Lenient.step {} = .ok scan ∧ scan.mode ≠ .frames ∧
      Between (Text.compact text) scan ∧ Lenient.finish tolerant scan = .ok line := by
  cases scanned : (Text.compact text).foldlM Lenient.step {} with
  | error refusal =>
      rw [read, scanned] at found
      cases found
  | ok scan =>
      rw [read, scanned] at found
      have between := foldlM_preserves (Between (Text.compact text))
        (fun char member state next holds taken => holds.step member taken)
        (between_start _) scanned
      exact ⟨scan, rfl, (finish_ok found).1, between, found⟩

/-- What is read leniently comes from the characters of the text that are not blank. -/
theorem parsed_of_read {tolerant : Bool} {text : Text} {line : ActionLine}
    (found : read tolerant text = .ok line) :
    line.Parsed (Text.compact text) ∧ (tolerant = false → line.InRange) := by
  obtain ⟨scan, _, _, between, finished⟩ := exists_scan_of_read found
  exact between.finish finished

/-- No key that is read leniently is blank. -/
theorem visible_of_read {tolerant : Bool} {text : Text} {line : ActionLine}
    (found : read tolerant text = .ok line) : line.keys.Visible := by
  apply (parsed_of_read found).1.written.visible
  intro char member
  exact Text.isBlank_of_mem_compact member

end Lenient

end FrameScript
