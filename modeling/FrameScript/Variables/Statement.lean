import FrameScript.Text.Blank
import FrameScript.Text.Quoted
import FrameScript.Text.Replace

/-!
# Statements

A file of variables is a sequence of statements `NAME=value`, one to a line.  A statement may start
with the word `export`, and a comment runs from a number sign to the end of the line.  A value is
either the rest of the line, up to a comment that follows a blank, or a text between two quotes,
which may go over several lines.  A line that is no statement is passed over.
-/

namespace FrameScript

structure Statement where
  name : Text
  value : Option Text
  deriving DecidableEq, Repr

namespace Statement

/-- Whether a character is blank and does not end the line. -/
def isGap (char : Char) : Bool := Text.isBlank char && char != '\n'

def withinLine (char : Char) : Bool := char != '\n'

def dropLine (text : Text) : Text := (text.dropWhile withinLine).drop 1

def atLineEnd (text : Text) : Bool :=
  match text.dropWhile isGap with
  | [] => true
  | first :: _ => first == '\n' || first == '#'

/-- What stands between a quote and the quote that closes it, given the text behind the first of
them, and the rest.  A quote behind a backslash closes only if no later quote does. -/
def quotedText? (quote : Char) : Text → Option (Text × Text)
  | [] => none
  | [last] => if last = quote then some ([], []) else none
  | first :: second :: rest =>
      if first = quote then some ([], second :: rest)
      else if first = Text.backslash ∧ second = quote then
        match quotedText? quote rest with
        | some (inside, behind) => some (first :: second :: inside, behind)
        | none => some ([first], rest)
      else
        (quotedText? quote (second :: rest)).map fun (inside, behind) => (first :: inside, behind)

def escapes : List (Char × Char) := [
  (Text.doubleQuote, Text.doubleQuote), ('a', '\x07'), ('b', '\x08'), ('f', '\x0c'), ('n', '\n'),
  ('r', '\r'), ('t', '\t'), ('v', '\x0b')]

/-- What a character behind a backslash stands for between two of the given quotes, if it is not
literal. -/
def escapeImage? (quote char : Char) : Option Char :=
  if char = Text.backslash ∨ char = Text.singleQuote then some char
  else if quote = Text.doubleQuote then escapes.lookup char
  else none

def escape? (quote : Char) : Text → Option Text.Occurrence
  | first :: second :: _ =>
      if first = Text.backslash then
        (escapeImage? quote second).map fun image => ⟨[image], 1⟩
      else none
  | _ => none

/-! ## Reading -/

def isNameChar (char : Char) : Bool := char != '=' && char != '#' && !Text.isBlank char

/-- The name at the start of a text, which may be between single quotes, and the rest. -/
def name? (text : Text) : Option (Text × Text) :=
  let nonempty (name rest : Text) := if name = [] then none else some (name, rest)
  let isInside (char : Char) : Bool := char != Text.singleQuote
  if text.head? = some Text.singleQuote then
    match text.tail.dropWhile isInside with
    | [] => none
    | _ :: rest => nonempty (text.tail.takeWhile isInside) rest
  else nonempty (text.takeWhile isNameChar) (text.dropWhile isNameChar)

def withoutComment : Text → Text
  | [] => []
  | first :: rest =>
      if Text.isBlank first ∧ rest.head? = some '#' then [] else first :: withoutComment rest

def value? (text : Text) : Option (Text × Text) :=
  let quotes := [Text.singleQuote, Text.doubleQuote]
  match text.head?.filter quotes.contains with
  | some quote =>
      (quotedText? quote text.tail).map fun (inside, rest) =>
        (Text.replaceAll (escape? quote) inside, rest)
  | none =>
      let line := text.takeWhile withinLine
      some (Text.trimEnd (withoutComment line), text.dropWhile withinLine)

def withoutExport (text : Text) : Text :=
  let word := "export".toList
  let rest := text.drop word.length
  if word.isPrefixOf text ∧ rest.head?.any isGap then rest.dropWhile isGap else text

/-- The statement with a name that is followed by the given text, and the rest of the file. -/
def readAfter (name text : Text) : Option Statement × Text :=
  match text with
  | '=' :: rest =>
      let rest := rest.dropWhile isGap
      match value? rest with
      | none => (none, dropLine rest)
      | some (value, rest) =>
          (if atLineEnd rest then some ⟨name, value⟩ else none, dropLine rest)
  | _ => (if atLineEnd text then some ⟨name, none⟩ else none, dropLine text)

def read (text : Text) : Option Statement × Text :=
  let text := withoutExport text
  match name? text with
  | none => (none, dropLine text)
  | some (name, rest) => readAfter name (rest.dropWhile isGap)

/-- The statements of a text, at most the given number of lines. -/
def readLines : Nat → Text → List Statement
  | 0, _ => []
  | limit + 1, text =>
      match Text.trimStart text with
      | [] => []
      | text =>
          let (statement, rest) := read text
          statement.toList ++ readLines limit rest

/-- The statements of a text with newline endings.  There are no more of them than characters. -/
def readAll (text : Text) : List Statement := readLines text.length text

end Statement

end FrameScript
