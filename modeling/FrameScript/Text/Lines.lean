import FrameScript.Text.Basic

/-!
# Lines

A script file is first brought to newline endings and then divided at every character that ends a
line.  The terminator after the last line adds no empty line, and writing lines puts one newline
after each of them.
-/

namespace FrameScript.Text

def endsLine (char : Char) : Bool :=
  let code := char.toNat
  (0x0A ≤ code && code ≤ 0x0D) || (0x1C ≤ code && code ≤ 0x1E) || code == 0x85 || code == 0x2028 ||
    code == 0x2029

/-- A carriage return becomes a newline, together with the newline right after it if there is
one. -/
def normalizeNewlines : Text → Text
  | [] => []
  | '\r' :: '\n' :: rest => '\n' :: normalizeNewlines rest
  | first :: rest => (if first = '\r' then '\n' else first) :: normalizeNewlines rest

def startLine (first : Char) : List Text → List Text
  | [] => [[first]]
  | line :: lines => (first :: line) :: lines

/-- The lines of a text in which the given characters end a line. -/
def linesBy (ends : Char → Bool) : Text → List Text
  | [] => []
  | first :: rest =>
      if ends first then [] :: linesBy ends rest else startLine first (linesBy ends rest)

def lines (text : Text) : List Text := linesBy endsLine text

def ofLines (lines : List Text) : Text := lines.flatMap fun line => line ++ ['\n']

theorem linesBy_line {ends : Char → Bool} {line : Text} {last : Char} {rest : Text}
    (inside : ∀ char ∈ line, ends char = false) (atEnd : ends last = true) :
    linesBy ends (line ++ last :: rest) = line :: linesBy ends rest := by
  induction line with
  | nil => simp [linesBy, atEnd]
  | cons first line ih =>
      have here : ends first = false := inside first (by simp)
      have after := ih fun char member => inside char (by simp [member])
      simp [linesBy, here, after, startLine]

end FrameScript.Text
