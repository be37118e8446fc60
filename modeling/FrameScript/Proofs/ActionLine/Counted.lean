import FrameScript.Proofs.ActionLine.Tolerance

/-!
# Lines with a frame count

Which texts are read when invalid numbers are tolerated, and with which frame count.  A delimited
line has its count in front of the first delimiter.  A lenient reading collects the digits in front
of the first character that is neither a digit nor a delimiter; nothing behind that character can
make it fail any more.  So the digits of the count decide whether there is a line, with how many
frames, and whether the count is too long to be converted.
-/

namespace FrameScript

open ActionLine (delimiter)

theorem Text.headD_splitOn (separator : Char) (text : Text) :
    (text.splitOn separator).headD [] = text.takeWhile fun char => char != separator := by
  induction text with
  | nil => rfl
  | cons first rest ih =>
      obtain ⟨part, parts, split⟩ :=
        List.exists_cons_of_ne_nil (List.splitOn_ne_nil separator rest)
      rw [split, List.headD_cons] at ih
      rw [List.splitOn_cons_eq_if_modifyHead, List.takeWhile_cons, split]
      by_cases same : first = separator
      · simp [same]
      · simp [same, ih]

namespace Delimited

/-- The field in which a delimited line has its frame count. -/
def countField (text : Text) : Text :=
  Text.trim ((Text.trim text).takeWhile fun char => char != delimiter)

theorem headD_fieldsOf (text : Text) : (fieldsOf text).headD [] = countField text := by
  obtain ⟨part, parts, split⟩ :=
    List.exists_cons_of_ne_nil (List.splitOn_ne_nil delimiter (Text.trim text))
  have first := Text.headD_splitOn delimiter (Text.trim text)
  rw [split, List.headD_cons] at first
  rw [fieldsOf, split, List.map_cons, List.headD_cons, countField, first]

variable {text : Text} {tolerant : Bool}

theorem read_of_uncounted (uncounted : (countField text).isDigits = false) :
    read tolerant text = .error (.rejected (.invalidFrameCount (countField text))) := by
  have missing : FrameCount.read? (countField text) = .ok none := by
    rw [FrameCount.read?, uncounted]
    rfl
  simp only [read, headD_fieldsOf, missing]

theorem read_of_overlong (counted : (countField text).isDigits = true)
    (long : digitLimit < (countField text).length) :
    read tolerant text = .error (.overlong ⟨(countField text).length⟩) := by
  have refused : FrameCount.read? (countField text) = .error ⟨(countField text).length⟩ := by
    rw [FrameCount.read?, if_pos counted, FrameCount.checked, FrameCount.ofDigits_digits,
      if_pos long]
    rfl
  simp only [read, headD_fieldsOf, refused]

theorem read_of_counted (counted : (countField text).isDigits = true)
    (within : (countField text).length ≤ digitLimit) :
    read tolerant text =
      (readFields tolerant (Number.digitsValue (countField text))
        (fieldsOf text).tail).mapError .rejected := by
  have converted : FrameCount.read? (countField text) =
      .ok (some (Number.digitsValue (countField text))) := by
    rw [FrameCount.read?, if_pos counted, FrameCount.checked, FrameCount.ofDigits_digits,
      if_neg (by omega), FrameCount.ofDigits_value]
    rfl
  simp only [read, headD_fieldsOf, converted]

/-- A delimited line whose count can be converted is read with that count. -/
theorem exists_read_of_counted (counted : (countField text).isDigits = true)
    (within : (countField text).length ≤ digitLimit) :
    ∃ line, read true text = .ok line ∧
      line.frames = Number.digitsValue (countField text) := by
  obtain ⟨line, ran⟩ :=
    readFields_tolerant (Number.digitsValue (countField text)) (fieldsOf text).tail
  obtain ⟨expected, between⟩ := readFields_ok ran
    (fun field member => trim_of_mem_fieldsOf (List.mem_of_mem_tail member))
    (fun field member => inside_of_mem_fieldsOf (List.mem_of_mem_tail member))
  refine ⟨line, ?_, between.frames_eq⟩
  rw [read_of_counted counted within, ran]
  rfl

end Delimited

/-! ## Lines read leniently -/

namespace Lenient

/-- A character that does not end the frame count. -/
def isCountChar (char : Char) : Bool := char.isDigit || char == delimiter

theorem isCountChar_of_isDigit {char : Char} (digit : char.isDigit = true) :
    isCountChar char = true := by
  rw [isCountChar, digit, Bool.true_or]

/-- The characters of a line in front of the one that ends the frame count. -/
def countPart (text : Text) : Text := (Text.compact text).takeWhile isCountChar

/-- The digits of the frame count. -/
def countDigits (text : Text) : Text := (countPart text).filter Char.isDigit

theorem foldlM_countChars {part : Text} (inside : ∀ char ∈ part, isCountChar char = true)
    (count : FrameCount) (line : ActionLine) :
    part.foldlM step ⟨.frames, count, line⟩ =
      .ok ⟨.frames, (part.filter Char.isDigit).foldl FrameCount.push count, line⟩ := by
  induction part generalizing count with
  | nil => rfl
  | cons first rest ih =>
      have later := ih fun char member => inside char (by simp [member])
      cases digit : first.isDigit with
      | true =>
          have taken : step ⟨.frames, count, line⟩ first =
              .ok ⟨.frames, count.push first, line⟩ := by
            simp only [step, dispatch, digit, if_true]
            rfl
          rw [foldlM_cons_of_ok taken, later, List.filter_cons, if_pos digit, List.foldl_cons]
      | false =>
          obtain rfl : first = delimiter := by
            have here := inside first (by simp)
            rw [isCountChar, digit, Bool.false_or, beq_iff_eq] at here
            exact here
          have taken : step ⟨.frames, count, line⟩ delimiter = .ok ⟨.frames, count, line⟩ := rfl
          rw [foldlM_cons_of_ok taken, later, List.filter_cons, if_neg (by simp [digit])]

/-- What a character can do behind the frame count: it is read as a tag, it is part of a list or of
a number, or it divides the two numbers of the feather. -/
inductive Reads (char : Char) : Scan → Scan → Prop where
  | tag (scan : Scan) : Reads char scan (takeTag scan char)
  | direction (restriction : Restriction) (direction : Direction) (count : FrameCount)
      (line : ActionLine) :
      Reads char ⟨.only restriction, count, line⟩
        ⟨.only restriction, count, line.hold (.restricted restriction direction)⟩
  | key (count : FrameCount) (line : ActionLine) :
      Reads char ⟨.keys, count, line⟩
        ⟨.keys, count, { line with keys := line.keys.insert [keyOf char] }⟩
  | angle (count : FrameCount) (line : ActionLine) :
      Reads char ⟨.angle, count, line⟩
        ⟨.angle, count, { line with angle := extend line.angle char }⟩
  | angleEnd (count : FrameCount) (line : ActionLine) :
      Reads char ⟨.angle, count, line⟩ ⟨.magnitude, count, line⟩
  | magnitude (count : FrameCount) (line : ActionLine) :
      Reads char ⟨.magnitude, count, line⟩
        ⟨.magnitude, count, { line with magnitude := extend line.magnitude char }⟩

/-- A delimiter that ends a list or a magnitude is passed over like one between tags. -/
theorem Reads.passed {char : Char} (ends : char = delimiter) (mode : Mode) (count : FrameCount)
    (line : ActionLine) : Reads char ⟨mode, count, line⟩ ⟨.tag, count, line⟩ := by
  have passed : takeTag ⟨mode, count, line⟩ char = ⟨.tag, count, line⟩ := by
    rw [takeTag, if_pos ends]
  rw [← passed]
  exact .tag _

/-- Behind the frame count every character is read. -/
theorem exists_reads {scan : Scan} (started : scan.mode ≠ .frames) (char : Char) :
    ∃ next, step scan char = .ok next ∧ Reads char scan next := by
  obtain ⟨mode, count, line⟩ := scan
  rw [step]
  unfold dispatch
  cases mode with
  | frames => exact absurd rfl started
  | tag => exact ⟨_, rfl, .tag _⟩
  | only restriction =>
      dsimp only
      split
      · rename_i ends
        exact ⟨_, rfl, .passed ends ..⟩
      · split
        · exact ⟨_, rfl, .direction ..⟩
        · exact ⟨_, rfl, .tag ⟨.only restriction, count, line⟩⟩
  | keys =>
      dsimp only
      split
      · rename_i ends
        exact ⟨_, rfl, .passed ends ..⟩
      · exact ⟨_, rfl, .key ..⟩
  | angle =>
      dsimp only
      split
      · exact ⟨_, rfl, .angleEnd ..⟩
      · split
        · exact ⟨_, rfl, .angle ..⟩
        · exact ⟨_, rfl, .tag ⟨.angle, count, line⟩⟩
  | magnitude =>
      dsimp only
      split
      · rename_i ends
        exact ⟨_, rfl, .passed ends ..⟩
      · split
        · exact ⟨_, rfl, .magnitude ..⟩
        · exact ⟨_, rfl, .tag ⟨.magnitude, count, line⟩⟩

/-- A character in the place of a tag adds the tag that it writes, if there is one. -/
theorem takeTag_cases (scan : Scan) (char : Char) :
    takeTag scan char = { scan with mode := .tag } ∨
      ∃ tag, char ≠ delimiter ∧ Tag.ofChar? char = some tag ∧
        takeTag scan char = { scan with mode := modeAfter tag, line := scan.line.hold tag } := by
  rw [takeTag]
  split
  · exact Or.inl rfl
  · rename_i different
    split
    · rename_i tag found
      exact Or.inr ⟨tag, different, found, rfl⟩
    · exact Or.inl rfl

theorem modeAfter_ne_frames (tag : Tag) : modeAfter tag ≠ .frames := by
  cases tag <;> simp [modeAfter]

theorem takeTag_started (scan : Scan) (char : Char) :
    (takeTag scan char).mode ≠ .frames ∧
      (takeTag scan char).line.frames = scan.line.frames := by
  rcases takeTag_cases scan char with passed | ⟨tag, _, _, taken⟩
  · rw [passed]
    exact ⟨by simp, rfl⟩
  · rw [taken]
    exact ⟨modeAfter_ne_frames tag, rfl⟩

theorem Reads.started {char : Char} {scan next : Scan} (reads : Reads char scan next)
    (started : scan.mode ≠ .frames) :
    next.mode ≠ .frames ∧ next.line.frames = scan.line.frames := by
  cases reads with
  | tag => exact takeTag_started scan char
  | direction => exact ⟨started, rfl⟩
  | key => exact ⟨started, rfl⟩
  | angle => exact ⟨started, rfl⟩
  | angleEnd => exact ⟨by simp, rfl⟩
  | magnitude => exact ⟨started, rfl⟩

/-- Behind the frame count nothing is refused, and the count stays. -/
theorem foldlM_started (text : Text) {scan : Scan} (started : scan.mode ≠ .frames) :
    ∃ last, text.foldlM step scan = .ok last ∧ last.mode ≠ .frames ∧
      last.line.frames = scan.line.frames := by
  induction text generalizing scan with
  | nil => exact ⟨scan, rfl, started, rfl⟩
  | cons first rest ih =>
      obtain ⟨next, taken, reads⟩ := exists_reads started first
      obtain ⟨nextStarted, sameFrames⟩ := reads.started started
      obtain ⟨last, scanned, lastStarted, frames⟩ := ih nextStarted
      refine ⟨last, ?_, lastStarted, frames.trans sameFrames⟩
      rw [foldlM_cons_of_ok taken, scanned]

theorem settle_tolerated (range : Number.Range) (reason : Text → Rejection) (text : Option Text) :
    ∃ result, settle true range reason text = .ok result := by
  cases text with
  | none => exact ⟨none, rfl⟩
  | some number =>
      rw [settle]
      split
      · exact ⟨_, rfl⟩
      · exact ⟨_, rfl⟩

theorem finish_tolerated {scan : Scan} (started : scan.mode ≠ .frames) :
    ∃ angle magnitude, finish true scan = .ok { scan.line with angle, magnitude } := by
  obtain ⟨angle, angles⟩ := settle_tolerated .angle .invalidAngle (promote scan.line).angle
  obtain ⟨magnitude, magnitudes⟩ :=
    settle_tolerated .magnitude .invalidMagnitude (promote scan.line).magnitude
  exact ⟨angle, magnitude, finish_of_settled started angles magnitudes⟩

variable {text : Text} {tolerant : Bool}

theorem foldlM_countPart (text : Text) :
    (countPart text).foldlM step {} =
      .ok ⟨.frames, .ofDigits (countDigits text), { frames := 0 }⟩ :=
  foldlM_countChars (List.all_eq_true.1 List.all_takeWhile) _ _

theorem read_of_unended (unended : countPart text = Text.compact text) :
    read tolerant text = .error (.rejected .noActions) := by
  rw [read, ← unended, foldlM_countPart]
  rfl

/-- The character that ends the frame count. -/
theorem exists_ending (ended : countPart text ≠ Text.compact text) :
    ∃ ending rest, Text.compact text = countPart text ++ ending :: rest ∧
      isCountChar ending = false := by
  have parts : countPart text ++ (Text.compact text).dropWhile isCountChar = Text.compact text :=
    List.takeWhile_append_dropWhile
  cases behind : (Text.compact text).dropWhile isCountChar with
  | nil =>
      rw [behind, List.append_nil] at parts
      exact absurd parts ended
  | cons ending rest =>
      rw [behind] at parts
      refine ⟨ending, rest, parts.symm, ?_⟩
      have stops := List.head_dropWhile_not isCountChar (l := Text.compact text) (by simp [behind])
      simpa [behind] using stops

theorem dispatch_ending {count : FrameCount} {line : ActionLine} {ending : Char}
    (ends : isCountChar ending = false) :
    dispatch ⟨.frames, count, line⟩ ending =
      if count.digits = 0 then .error (.rejected .noFrameCount)
      else
        match count.checked with
        | .error fault => .error (.overlong fault)
        | .ok frames => .ok (.handedOver ⟨.tag, count, { line with frames }⟩) := by
  rw [isCountChar, Bool.or_eq_false_iff, beq_eq_false_iff_ne] at ends
  simp only [dispatch, ends.1, if_neg ends.2]
  rfl

theorem read_of_uncounted (ended : countPart text ≠ Text.compact text)
    (none : countDigits text = []) :
    read tolerant text = .error (.rejected .noFrameCount) := by
  obtain ⟨ending, rest, shape, ends⟩ := exists_ending ended
  rw [read, shape, foldlM_append_of_ok (foldlM_countPart text), List.foldlM_cons, step,
    dispatch_ending ends, none]
  rfl

theorem read_of_overlong (ended : countPart text ≠ Text.compact text)
    (long : digitLimit < (countDigits text).length) :
    read tolerant text = .error (.overlong ⟨(countDigits text).length⟩) := by
  obtain ⟨ending, rest, shape, ends⟩ := exists_ending ended
  have given : (FrameCount.ofDigits (countDigits text)).digits ≠ 0 := by
    rw [FrameCount.ofDigits_digits]
    omega
  have refused : (FrameCount.ofDigits (countDigits text)).checked =
      .error ⟨(countDigits text).length⟩ := by
    rw [FrameCount.checked, FrameCount.ofDigits_digits, if_pos long]
  rw [read, shape, foldlM_append_of_ok (foldlM_countPart text), List.foldlM_cons, step,
    dispatch_ending ends, if_neg given, refused]
  rfl

/-- The character that ends the frame count is read as a tag, like those behind it. -/
theorem foldlM_of_counted (ended : countPart text ≠ Text.compact text)
    (given : countDigits text ≠ []) (within : (countDigits text).length ≤ digitLimit) :
    (Text.compact text).foldlM step {} =
      ((Text.compact text).dropWhile isCountChar).foldlM step
        ⟨.tag, .ofDigits (countDigits text),
          { frames := Number.digitsValue (countDigits text) }⟩ := by
  obtain ⟨ending, rest, shape, ends⟩ := exists_ending ended
  have behind : (Text.compact text).dropWhile isCountChar = ending :: rest := by
    have parts : countPart text ++ (Text.compact text).dropWhile isCountChar =
        Text.compact text := List.takeWhile_append_dropWhile
    exact List.append_cancel_left (parts.trans shape)
  have digits : (FrameCount.ofDigits (countDigits text)).digits ≠ 0 := by
    rw [FrameCount.ofDigits_digits]
    exact fun none => given (List.length_eq_zero_iff.1 none)
  have converted : (FrameCount.ofDigits (countDigits text)).checked =
      .ok (Number.digitsValue (countDigits text)) := by
    rw [FrameCount.checked, FrameCount.ofDigits_digits, if_neg (by omega),
      FrameCount.ofDigits_value]
    rfl
  rw [behind, shape, foldlM_append_of_ok (foldlM_countPart text), List.foldlM_cons, step,
    dispatch_ending ends, if_neg digits, converted]
  rfl

/-- A line with digits in front of something else is read with these digits as its count. -/
theorem exists_read_of_counted (ended : countPart text ≠ Text.compact text)
    (given : countDigits text ≠ []) (within : (countDigits text).length ≤ digitLimit) :
    ∃ line, read true text = .ok line ∧
      line.frames = Number.digitsValue (countDigits text) := by
  have tagged : (⟨.tag, .ofDigits (countDigits text),
      { frames := Number.digitsValue (countDigits text) }⟩ : Scan).mode ≠ .frames := by simp
  obtain ⟨last, scanned, started, frames⟩ :=
    foldlM_started ((Text.compact text).dropWhile isCountChar) tagged
  obtain ⟨angle, magnitude, finished⟩ := finish_tolerated started
  refine ⟨{ last.line with angle, magnitude }, ?_, frames⟩
  rw [read, foldlM_of_counted ended given within, scanned]
  exact finished

end Lenient

namespace ActionLine

/-- The digits of the frame count of a line: the whole first field if it is a run of digits, and
otherwise the digits in front of the first character that is neither a digit nor a delimiter nor
blank, if there is such a character. -/
def countDigits? (text : Text) : Option Text :=
  if (Delimited.countField text).isDigits then some (Delimited.countField text)
  else if (Lenient.countPart text).length < (Text.compact text).length ∧
      Lenient.countDigits text ≠ [] then
    some (Lenient.countDigits text)
  else none

variable {text digits : Text}

theorem countDigits?_cases (found : countDigits? text = some digits) :
    (Delimited.countField text = digits ∧ digits.isDigits = true) ∨
      (Delimited.countField text).isDigits = false ∧
        Lenient.countPart text ≠ Text.compact text ∧ Lenient.countDigits text = digits ∧
        digits ≠ [] := by
  rw [countDigits?] at found
  split at found
  · rename_i isDigits
    cases found
    exact Or.inl ⟨rfl, isDigits⟩
  · rename_i other
    split at found
    · rename_i ended
      cases found
      refine Or.inr ⟨by simpa using other, fun same => ?_, rfl, ended.2⟩
      rw [same] at ended
      omega
    · cases found

theorem read_of_overlong (found : countDigits? text = some digits)
    (long : digitLimit < digits.length) :
    read true text = .error (.overlong ⟨digits.length⟩) := by
  rcases countDigits?_cases found with ⟨rfl, isDigits⟩ | ⟨other, ended, rfl, _⟩
  · rw [read, Delimited.read_of_overlong isDigits long]
    rfl
  · rw [read_of_rejected (Delimited.read_of_uncounted other), Lenient.read_of_overlong ended long]

theorem exists_read_of_counted (found : countDigits? text = some digits)
    (within : digits.length ≤ digitLimit) :
    ∃ line, read true text = .ok line ∧ line.frames = Number.digitsValue digits := by
  rcases countDigits?_cases found with ⟨rfl, isDigits⟩ | ⟨other, ended, rfl, given⟩
  · obtain ⟨line, delimited, frames⟩ := Delimited.exists_read_of_counted isDigits within
    exact ⟨line, read_of_delimited delimited, frames⟩
  · obtain ⟨line, lenient, frames⟩ := Lenient.exists_read_of_counted ended given within
    refine ⟨line, ?_, frames⟩
    rw [read_of_rejected (Delimited.read_of_uncounted other), lenient]

/-- A text without a frame count is rejected. -/
theorem read_of_uncounted (uncounted : countDigits? text = none) :
    ∃ reason, read true text = .error (.rejected reason) := by
  rw [countDigits?] at uncounted
  split at uncounted
  · cases uncounted
  · rename_i other
    have notDigits : (Delimited.countField text).isDigits = false := by simpa using other
    rw [read_of_rejected (Delimited.read_of_uncounted notDigits)]
    split at uncounted
    · cases uncounted
    · rename_i missing
      by_cases unended : Lenient.countPart text = Text.compact text
      · exact ⟨_, Lenient.read_of_unended unended⟩
      · refine ⟨_, Lenient.read_of_uncounted unended ?_⟩
        by_contra given
        have part := List.takeWhile_prefix Lenient.isCountChar (l := Text.compact text)
        have shorter : (Lenient.countPart text).length < (Text.compact text).length :=
          Nat.lt_of_le_of_ne part.length_le fun same => unended (part.eq_of_length same)
        exact missing ⟨shorter, given⟩

/-- A text with a frame count is read, or its count is too long. -/
theorem countDigits?_isSome (read : ∀ reason, read true text ≠ .error (.rejected reason)) :
    ∃ digits, countDigits? text = some digits := by
  cases found : countDigits? text with
  | some digits => exact ⟨digits, rfl⟩
  | none =>
      obtain ⟨reason, rejected⟩ := read_of_uncounted found
      exact absurd rejected (read reason)

end ActionLine

end FrameScript
