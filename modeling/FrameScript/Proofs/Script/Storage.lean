import FrameScript.Script.Basic
import FrameScript.Text.Blank

/-!
# Storing scripts

A list of lines that is stored and read again is the same list, provided that no line has a
character that ends a line; and the lines that are read from a file never have one.  The first part
goes through the four lengths of an UTF-8 sequence, the second through the characters of a file.
-/

namespace FrameScript

namespace Text.Utf8

theorem decodeFrom_one {offset : Nat} {lead : UInt8} {rest : Bytes} (short : lead.toNat < 0x80) :
    decodeFrom offset (lead :: rest) =
      (decodeFrom (offset + 1) rest).map (assemble lead.toNat [] :: ·) := by
  rw [decodeFrom.eq_def]
  simp only [short, if_true]

theorem decodeFrom_two {offset : Nat} {lead second : UInt8} {rest : Bytes}
    (least : 0xC2 ≤ lead.toNat) (most : lead.toNat < 0xE0) (follow : follows lead second = true) :
    decodeFrom offset (lead :: second :: rest) =
      (decodeFrom (offset + 2) rest).map (assemble (lead.toNat - 0xC0) [second] :: ·) := by
  rw [decodeFrom.eq_def]
  simp only
  rw [if_neg (by omega), if_neg (by omega)]
  simp only [follow, Bool.not_true, Bool.false_eq_true, if_false, most, if_true]

theorem decodeFrom_three {offset : Nat} {lead second third : UInt8} {rest : Bytes}
    (least : 0xE0 ≤ lead.toNat) (most : lead.toNat < 0xF0) (follow : follows lead second = true)
    (continues : isContinuation third = true) :
    decodeFrom offset (lead :: second :: third :: rest) =
      (decodeFrom (offset + 3) rest).map (assemble (lead.toNat - 0xE0) [second, third] :: ·) := by
  rw [decodeFrom.eq_def]
  simp only
  rw [if_neg (by omega), if_neg (by omega)]
  have long : ¬lead.toNat < 0xE0 := by omega
  simp only [follow, continues, Bool.not_true, Bool.false_eq_true, if_false, long, most, if_true]

theorem decodeFrom_four {offset : Nat} {lead second third fourth : UInt8} {rest : Bytes}
    (least : 0xF0 ≤ lead.toNat) (most : lead.toNat ≤ 0xF4) (follow : follows lead second = true)
    (continues : isContinuation third = true) (ends : isContinuation fourth = true) :
    decodeFrom offset (lead :: second :: third :: fourth :: rest) =
      (decodeFrom (offset + 4) rest).map
        (assemble (lead.toNat - 0xF0) [second, third, fourth] :: ·) := by
  rw [decodeFrom.eq_def]
  simp only
  rw [if_neg (by omega), if_neg (by omega)]
  have long : ¬lead.toNat < 0xE0 := by omega
  have longer : ¬lead.toNat < 0xF0 := by omega
  simp only [follow, continues, ends, Bool.not_true, Bool.false_eq_true, if_false, long, longer]

theorem isContinuation_iff {byte : UInt8} :
    isContinuation byte = true ↔ 0x80 ≤ byte.toNat ∧ byte.toNat ≤ 0xBF := by
  simp [isContinuation]

theorem follows_iff {lead second : UInt8} :
    follows lead second = true ↔
      (0x80 ≤ second.toNat ∧ second.toNat ≤ 0xBF) ∧
        (lead.toNat = 0xE0 → 0xA0 ≤ second.toNat) ∧ (lead.toNat = 0xF0 → 0x90 ≤ second.toNat) ∧
        (lead.toNat = 0xED → second.toNat ≤ 0x9F) ∧ (lead.toNat = 0xF4 → second.toNat ≤ 0x8F) := by
  simp only [follows, Bool.and_eq_true, decide_eq_true_eq]
  split <;> split <;> (try split) <;> (try split) <;> omega

theorem toNat_ofNat_of_lt {number : Nat} (small : number < 256) :
    (UInt8.ofNat number).toNat = number := by
  rw [UInt8.toNat_ofNat']
  exact Nat.mod_eq_of_lt small

theorem ofNat_eq_of_toNat {char : Char} {code : Nat} (same : code = char.toNat) :
    Char.ofNat code = char := by
  rw [same, Char.ofNat_toNat]

theorem toNat_scalar (char : Char) :
    char.toNat < 0xD800 ∨ (0xDFFF < char.toNat ∧ char.toNat < 0x110000) := char.valid

/-- Decoding takes the sequence of a character back to that character. -/
theorem decodeFrom_encodeChar (offset : Nat) (char : Char) (rest : Bytes) :
    ∃ next, decodeFrom offset (String.utf8EncodeChar char ++ rest) =
      (decodeFrom next rest).map (char :: ·) := by
  have scalar := toNat_scalar char
  rw [String.utf8EncodeChar, show char.val.toNat = char.toNat from rfl]
  split
  · refine ⟨offset + 1, ?_⟩
    have lead := toNat_ofNat_of_lt (show char.toNat < 256 by omega)
    rw [List.singleton_append, decodeFrom_one (by omega), lead, assemble,
      ofNat_eq_of_toNat (by rfl)]
  split
  · refine ⟨offset + 2, ?_⟩
    have lead := toNat_ofNat_of_lt (show char.toNat / 64 % 0x20 + 0xc0 < 256 by omega)
    have second := toNat_ofNat_of_lt (show char.toNat % 0x40 + 0x80 < 256 by omega)
    simp only [List.cons_append, List.nil_append]
    rw [decodeFrom_two (by omega) (by omega) (follows_iff.2 (by omega)), assemble,
      ofNat_eq_of_toNat]
    simp only [List.foldl_cons, List.foldl_nil, lead, second]
    omega
  split
  · refine ⟨offset + 3, ?_⟩
    have lead := toNat_ofNat_of_lt (show char.toNat / 4096 % 0x10 + 0xe0 < 256 by omega)
    have second := toNat_ofNat_of_lt (show char.toNat / 64 % 0x40 + 0x80 < 256 by omega)
    have third := toNat_ofNat_of_lt (show char.toNat % 0x40 + 0x80 < 256 by omega)
    simp only [List.cons_append, List.nil_append]
    rw [decodeFrom_three (by omega) (by omega) (follows_iff.2 (by omega))
      (isContinuation_iff.2 (by omega)), assemble, ofNat_eq_of_toNat]
    simp only [List.foldl_cons, List.foldl_nil, lead, second, third]
    omega
  · refine ⟨offset + 4, ?_⟩
    have lead := toNat_ofNat_of_lt (show char.toNat / 262144 % 0x08 + 0xf0 < 256 by omega)
    have second := toNat_ofNat_of_lt (show char.toNat / 4096 % 0x40 + 0x80 < 256 by omega)
    have third := toNat_ofNat_of_lt (show char.toNat / 64 % 0x40 + 0x80 < 256 by omega)
    have fourth := toNat_ofNat_of_lt (show char.toNat % 0x40 + 0x80 < 256 by omega)
    simp only [List.cons_append, List.nil_append]
    rw [decodeFrom_four (by omega) (by omega) (follows_iff.2 (by omega))
      (isContinuation_iff.2 (by omega)) (isContinuation_iff.2 (by omega)), assemble,
      ofNat_eq_of_toNat]
    simp only [List.foldl_cons, List.foldl_nil, lead, second, third, fourth]
    omega

theorem decodeFrom_encode (offset : Nat) (text : Text) :
    decodeFrom offset (encode text) = .ok text := by
  induction text generalizing offset with
  | nil => rfl
  | cons first rest ih =>
      obtain ⟨next, decoded⟩ := decodeFrom_encodeChar offset first (encode rest)
      rw [encode, List.flatMap_cons, ← encode, decoded, ih]
      rfl

theorem decode_encode (text : Text) : decode (encode text) = .ok text := decodeFrom_encode 0 text

end Text.Utf8

namespace Text

/-- A text in which no character ends a line. -/
def OneLine (text : Text) : Prop := ∀ char ∈ text, endsLine char = false

theorem isBlank_of_endsLine {char : Char} (ends : endsLine char = true) : isBlank char = true := by
  simp only [endsLine, Bool.or_eq_true, Bool.and_eq_true, decide_eq_true_eq, beq_iff_eq] at ends
  simp only [isBlank, Bool.or_eq_true, Bool.and_eq_true, decide_eq_true_eq, beq_iff_eq]
  omega

theorem endsLine_of_visible {char : Char} (visible : isBlank char = false) :
    endsLine char = false := by
  cases ends : endsLine char with
  | false => rfl
  | true => simp [isBlank_of_endsLine ends] at visible

theorem inside_of_mem_linesBy {ends : Char → Bool} {text line : Text}
    (member : line ∈ linesBy ends text) : ∀ char ∈ line, ends char = false := by
  induction text generalizing line with
  | nil => simp [linesBy] at member
  | cons first rest ih =>
      rw [linesBy] at member
      split at member
      · rcases List.mem_cons.1 member with rfl | later
        · simp
        · exact ih later
      · rename_i inside
        cases lines : linesBy ends rest with
        | nil =>
            rw [lines, startLine, List.mem_singleton] at member
            simpa [member] using inside
        | cons next others =>
            rw [lines, startLine] at member
            rcases List.mem_cons.1 member with rfl | later
            · intro char here
              rcases List.mem_cons.1 here with rfl | after
              · simpa using inside
              · exact ih (by simp [lines]) char after
            · exact ih (by simp [lines, later])

/-- Lines that were written are read again, also by a reader that knows further ends of lines. -/
theorem linesBy_ofLines {ends : Char → Bool} (newline : ends '\n' = true) {texts : List Text}
    (inside : ∀ line ∈ texts, ∀ char ∈ line, ends char = false) :
    linesBy ends (ofLines texts) = texts := by
  induction texts with
  | nil => rfl
  | cons line rest ih =>
      rw [ofLines, List.flatMap_cons, ← ofLines, List.append_assoc, List.singleton_append,
        linesBy_line (inside line (by simp)) newline,
        ih fun other member => inside other (by simp [member])]

theorem lines_ofLines {texts : List Text} (single : ∀ line ∈ texts, OneLine line) :
    lines (ofLines texts) = texts :=
  linesBy_ofLines (by decide) single

theorem normalizeNewlines_of_notMem {text : Text} (absent : '\r' ∉ text) :
    normalizeNewlines text = text := by
  fun_induction normalizeNewlines text with
  | case1 => rfl
  | case2 rest ih => simp at absent
  | case3 first rest _ ih =>
      rw [List.mem_cons, not_or] at absent
      rw [ih absent.2, if_neg (Ne.symm absent.1)]

theorem return_notMem_ofLines {texts : List Text} (single : ∀ line ∈ texts, OneLine line) :
    '\r' ∉ ofLines texts := by
  intro member
  obtain ⟨line, inList, inside⟩ := List.mem_flatMap.1 member
  rcases List.mem_append.1 inside with inLine | atEnd
  · exact absurd (single line inList _ inLine) (by decide)
  · simp at atEnd

end Text

/-! ## Scripts -/

namespace Script

open Text

/-- What is stored is what is read. -/
theorem decode_encode {lines : List Text} (single : ∀ line ∈ lines, OneLine line) :
    decode (encode lines) = .ok lines := by
  rw [decode, encode, Utf8.decode_encode, Except.map,
    normalizeNewlines_of_notMem (return_notMem_ofLines single), lines_ofLines single]

theorem oneLine_of_decode {bytes : Bytes} {lines : List Text} (read : decode bytes = .ok lines) :
    ∀ line ∈ lines, OneLine line := by
  rw [decode] at read
  cases decoded : Utf8.decode bytes with
  | error problem => simp [decoded, Except.map] at read
  | ok text =>
      rw [decoded, Except.map, Except.ok.injEq] at read
      subst read
      intro line member
      exact inside_of_mem_linesBy member

end Script

end FrameScript
