import ChessDiagram.Color.Text
import ChessDiagram.Markup

/-!
# Strokes

How a line is drawn: its colour, its width, dashes of one length or none, and the form of its ends
and corners, which are either plain or round together.
-/

namespace ChessDiagram

inductive StrokeCap where
  | butt
  | round
deriving DecidableEq

inductive StrokeJoin where
  | miter
  | round
deriving DecidableEq

structure Stroke where
  color : Color
  width : Binary32
  /-- The length of the dashes and of the gaps between them. -/
  dash : Option Binary32 := none
  cap : StrokeCap := .butt
  join : StrokeJoin := .miter

namespace StrokeCap

def name : StrokeCap → Text
  | .butt => "butt"
  | .round => "round"

end StrokeCap

namespace StrokeJoin

def name : StrokeJoin → Text
  | .miter => "miter"
  | .round => "round"

end StrokeJoin

namespace Stroke

def plain : Stroke where
  color := Color.black
  width := .ofNat 1

def solid (color : Color) (width : Binary32) : Stroke where
  color := color
  width := width

/-- A line with dashes as long as it is wide. -/
def dashed (color : Color) (size : Binary32) : Stroke where
  color := color
  width := size
  dash := some size

def rounded (stroke : Stroke) : Stroke :=
  { stroke with cap := .round, join := .round }

def dashText? (stroke : Stroke) : Option Text :=
  stroke.dash.map Floating.text

def attributes (stroke : Stroke) : List (Text × Text) :=
  let dashes : List (Text × Text) :=
    match stroke.dashText? with
    | some dash => [("stroke-dasharray", dash)]
    | none => []
  let line : List (Text × Text) := [
    ("stroke", stroke.color.text),
    ("stroke-opacity", stroke.color.alpha.text),
    ("stroke-width", stroke.width.text),
    ("stroke-linecap", stroke.cap.name),
    ("stroke-linejoin", stroke.join.name)]
  line ++ dashes

end Stroke

end ChessDiagram
