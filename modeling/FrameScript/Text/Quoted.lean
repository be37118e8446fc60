import FrameScript.Text.Printable

/-!
# Quoted texts

A text between quotes, as messages show it.  Single quotes are used unless the text has a single
quote and no double quote.  The quote in use, the backslash and every character that is not
printable are escaped, so that the quoted text stays on one line.
-/

namespace FrameScript.Text

def singleQuote : Char := '\x27'

def doubleQuote : Char := '\x22'

def backslash : Char := '\x5c'

def quoteFor (text : Text) : Char :=
  if text.contains singleQuote && !text.contains doubleQuote then doubleQuote else singleQuote

/-- A backslash, a mark, and the code point in hexadecimal digits of a fixed number. -/
def codeEscape (mark : Char) (width : Nat) (char : Char) : Text :=
  backslash :: mark :: (Nat.toDigits 16 char.toNat).leftpad width '0'

/-- How a character is written between two of the given quotes. -/
def escapeChar (quote : Char) (char : Char) : Text :=
  if char = quote ∨ char = backslash then [backslash, char]
  else if char = '\n' then [backslash, 'n']
  else if char = '\r' then [backslash, 'r']
  else if char = '\t' then [backslash, 't']
  else if isPrintable char then [char]
  else if char.toNat < 0x100 then codeEscape 'x' 2 char
  else if char.toNat < 0x10000 then codeEscape 'u' 4 char
  else codeEscape 'U' 8 char

def quoted (text : Text) : Text :=
  let quote := quoteFor text
  quote :: (text.flatMap (escapeChar quote) ++ [quote])

end FrameScript.Text
