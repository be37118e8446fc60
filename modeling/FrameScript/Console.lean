import FrameScript.Text.Blank
import FrameScript.Text.Lower
import FrameScript.Text.Quoted

/-!
# Console

What the program shows: texts with markup in square brackets, and tables of such texts.  A text that
is not meant as markup is escaped, so that its brackets are shown.  Markup is laid out by a library:
the tags of a text are opened and closed one after the other, and markup that closes what is not
open, or that has a tag of which the library makes nothing, is broken.  What the library makes of
names and parameters is left open here.
-/

namespace FrameScript

/-- Something shown on the console. -/
inductive Entry where
  | markup (text : String)
  | table (title : String) (columns : List String) (rows : List (List String))
  deriving DecidableEq, Repr

namespace Markup

def startsTag (char : Char) : Bool :=
  char.isLower || char == '#' || char == '/' || char == '@'

def completesTag : Text → Bool
  | [] => false
  | first :: rest =>
      startsTag first && (rest.find? fun char => char == '[' || char == ']') == some ']'

/-- Escapes the tags of a text that comes right after a number of backslashes.  A tag gets one
backslash in front, and the backslashes before it are doubled. -/
def escapeTags : Nat → Text → Text
  | _, [] => []
  | slashes, first :: rest =>
      if first = Text.backslash then first :: escapeTags (slashes + 1) rest
      else if first = '[' ∧ completesTag rest then
        List.replicate (slashes + 1) Text.backslash ++ first :: escapeTags 0 rest
      else first :: escapeTags 0 rest

def endsInBackslash (text : Text) : Bool :=
  match text.reverse with
  | [] => false
  | [last] => last == Text.backslash
  | last :: before :: _ => last == Text.backslash && before != Text.backslash

/-- The text as markup that shows it literally.  A single backslash at its end is doubled, so that
it does not escape what follows. -/
def escape (text : Text) : Text :=
  let escaped := escapeTags 0 text
  if endsInBackslash escaped then escaped ++ [Text.backslash] else escaped

def literal (text : Text) : String := String.ofList (escape text)

def quotation (text : Text) : String := literal (Text.quoted text)

/-- The text that markup shows when it comes right after a number of backslashes, or inside a tag.
Tags are left out, an odd number of backslashes before a tag shows the tag, and a backslash before
any other opening bracket is left out. -/
def shown (inTag : Bool) (slashes : Nat) : Text → Text
  | [] => List.replicate slashes Text.backslash
  | first :: rest =>
      if inTag then shown (first != ']') 0 rest
      else if first = Text.backslash then shown false (slashes + 1) rest
      else if first = '[' ∧ completesTag rest then
        List.replicate (slashes / 2) Text.backslash ++
          if slashes % 2 = 0 then shown true 0 rest else first :: shown false 0 rest
      else
        let kept := if first = '[' then slashes - 1 else slashes
        List.replicate kept Text.backslash ++ first :: shown false 0 rest

def plain (markup : String) : String := String.ofList (shown false 0 markup.toList)

structure Tag where
  name : Text
  parameters : Option Text := none
  deriving DecidableEq, Repr

def Tag.ofText (text : Text) : Tag where
  name := text.takeWhile fun char => char != '='
  parameters := (text.dropWhile fun char => char != '=').tail?

def Tag.style (tag : Tag) : Text :=
  match tag.parameters with
  | none => tag.name
  | some parameters => tag.name ++ ' ' :: parameters

/-- The tags of a text that comes right after a number of backslashes.  An odd number of them
escapes a tag. -/
def tags : Nat → Text → List Tag
  | _, [] => []
  | slashes, first :: rest =>
      if first = Text.backslash then tags (slashes + 1) rest
      else if first = '[' ∧ completesTag rest ∧ slashes % 2 = 0 then
        .ofText (rest.takeWhile fun char => char != ']') :: tags 0 rest
      else tags 0 rest

end Markup

/-- What the library makes of tags: the form in which names are compared, if it has one for a name,
whether the parameters of a handler are a value, and whether text can be drawn in a style. -/
structure Styling where
  form? : Text → Option Text
  evaluates : Text → Bool
  draws : Text → Bool

namespace Styling

variable (styling : Styling)

/-- Whether a tag can be closed.  A tag with an at sign is a handler and has no style. -/
def closes (tag : Markup.Tag) : Bool :=
  match tag.name with
  | '@' :: _ => tag.parameters.all fun text => text == [] || styling.evaluates text
  | _ => styling.draws tag.style

/-- The last of the open tags that a closing tag with the given name closes.  Without a name it is
the last one of all. -/
def closed? (opened : List Markup.Tag) (name : Text) : Option Markup.Tag :=
  match Text.trim name with
  | [] => opened.head?
  | name => (styling.form? name).bind fun form => opened.find? fun tag => tag.name == form

/-- The tags that are open behind a tag, the last one first; none if the tag is broken. -/
def step? (opened : List Markup.Tag) (tag : Markup.Tag) : Option (List Markup.Tag) :=
  match tag.name with
  | '/' :: name =>
      ((styling.closed? opened name).filter styling.closes).map opened.erase
  | name => (styling.form? name).map fun form => { tag with name := form } :: opened

/-- Whether a text can be laid out as markup.  The tags that are open at its end stay open. -/
def isSound (text : Text) : Bool :=
  match (Markup.tags 0 text).foldlM styling.step? [] with
  | some opened => opened.all fun tag => styling.draws tag.style
  | none => false

def lays : Entry → Bool
  | .markup text => styling.isSound text.toList
  | .table title columns rows =>
      (title :: (columns ++ rows.flatten)).all fun text => styling.isSound text.toList

def abbreviations : List (Text × Text) :=
  [("b", "bold"), ("c", "conceal"), ("d", "dim"), ("i", "italic"), ("o", "overline"),
    ("r", "reverse"), ("s", "strike"), ("u", "underline"), ("uu", "underline2")].map
    fun (short, long) => (short.toList, long.toList)

/-- A stand-in for the library that compares names in lower case, without the blanks at their ends
and without abbreviations, and that takes everything else as it comes. -/
def plain : Styling where
  form? name :=
    let word := Text.lower (Text.trim name)
    some ((abbreviations.lookup word).getD word)
  evaluates _ := true
  draws _ := true

end Styling

namespace Entry

def plainLines : Entry → List String
  | .markup text => [Markup.plain text]
  | .table title columns rows =>
      let row (cells : List String) : String := " | ".intercalate (cells.map Markup.plain)
      Markup.plain title :: row columns :: rows.map row

def error (message : String) : Entry := .markup s!"[bold red]Error:[/bold red] {message}"

def warning (message : String) : Entry := .markup s!"[bold yellow]Warning:[/bold yellow] {message}"

def success (message : String) : Entry := .markup s!"[bold green]{message}[/bold green]"

def info (message : String) : Entry := .markup s!"[dim]{message}[/dim]"

end Entry

end FrameScript
