import FrameScript.Text.Replace

/-!
# Control sequences

A terminal takes an escape character, an opening bracket, any number of parameters and a letter for
an instruction, such as a change of colour.  A text that is printed as plain output has its control
sequences left out.
-/

namespace FrameScript.Text

def escapeCharacter : Char := '\x1b'

def isParameter (char : Char) : Bool := char.isDigit || char == ';' || char == '?'

/-- The control sequence at the start of a text, to be left out. -/
def controlSequence? : Text → Option Occurrence
  | first :: second :: rest =>
      if first = escapeCharacter ∧ second = '[' then
        match rest.dropWhile isParameter with
        | [] => none
        | letter :: _ =>
            if letter.isAlpha then some ⟨[], (rest.takeWhile isParameter).length + 2⟩ else none
      else none
  | _ => none

def withoutSequences (text : Text) : Text := replaceAll controlSequence? text

theorem controlSequence?_of_ne {first : Char} (different : first ≠ escapeCharacter)
    (rest : Text) : controlSequence? (first :: rest) = none := by
  cases rest <;> simp [controlSequence?, different]

end FrameScript.Text
