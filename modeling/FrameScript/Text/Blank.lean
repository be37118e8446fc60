import FrameScript.Text.Basic

/-!
# Blank characters

The twenty-nine white-space characters of Unicode, the trimming of a text at either end, and the
text that is left when every blank has been taken out.
-/

namespace FrameScript.Text

/-- White space: the ASCII blanks and separators, the no-break and typographic spaces, and the line
and paragraph separators.  Zero-width characters are not blank. -/
def isBlank (char : Char) : Bool :=
  let code := char.toNat
  (0x09 ≤ code && code ≤ 0x0D) || (0x1C ≤ code && code ≤ 0x20) || code == 0x85 || code == 0xA0 ||
    code == 0x1680 || (0x2000 ≤ code && code ≤ 0x200A) || code == 0x2028 || code == 0x2029 ||
    code == 0x202F || code == 0x205F || code == 0x3000

def trimStart (text : Text) : Text := text.dropWhile isBlank

def trimEnd (text : Text) : Text := (text.reverse.dropWhile isBlank).reverse

def trim (text : Text) : Text := trimEnd (trimStart text)

def compact (text : Text) : Text := text.filter fun char => !isBlank char

def isVacant (text : Text) : Bool := text.all isBlank

theorem compact_append (first second : Text) :
    compact (first ++ second) = compact first ++ compact second :=
  List.filter_append ..

end FrameScript.Text
