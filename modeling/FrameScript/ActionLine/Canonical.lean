import FrameScript.ActionLine.Basic

/-!
# The canonical text of an action line

The frame count right-aligned in its column, then the held tags in their fixed order, each after a
delimiter, then the numbers of the feather.  A magnitude is written whenever there is one, an angle
also when there is none, as an empty field.  A list of directions can also be asked for by the tag
that opens it, which fails if the tag is not held.
-/

namespace FrameScript.ActionLine

def frameField (line : ActionLine) : Text := (Text.ofInt line.frames).leftpad frameColumn ' '

/-- The field of a held tag: its letter and the list that it opens. -/
def tagField (line : ActionLine) (tag : Tag) : Text :=
  match tag with
  | .only restriction =>
      tag.letter ::
        (line.held.restricted restriction).map fun direction => (Tag.direction direction).letter
  | .keys => tag.letter :: line.keys.concat
  | _ => [tag.letter]

def featherFields (line : ActionLine) : List Text :=
  if line.held.contains (.tag .feather) then line.angle.getD [] :: line.magnitude.toList else []

def fields (line : ActionLine) : List Text :=
  line.frameField :: (line.held.tags.map line.tagField ++ line.featherFields)

/-- The canonical text of a line. -/
def toText (line : ActionLine) : Text := [delimiter].intercalate line.fields

def expandedField (line : ActionLine) : Tag → Except Held.MissingOpener Text
  | .only restriction =>
      (line.held.expand restriction).map fun directions =>
        (Tag.only restriction).letter ::
          directions.map fun direction => (Tag.direction direction).letter
  | tag => .ok (line.tagField tag)

/-- The canonical text with every list of directions asked for by its tag. -/
def expandedText (line : ActionLine) : Except Held.MissingOpener Text :=
  (line.held.tags.mapM line.expandedField).map fun fields =>
    [delimiter].intercalate (line.frameField :: (fields ++ line.featherFields))

end FrameScript.ActionLine
