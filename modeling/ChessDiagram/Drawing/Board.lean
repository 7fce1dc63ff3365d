import ChessDiagram.Drawing.Glyph
import ChessDiagram.Drawing.Layers
import ChessDiagram.Grid
import ChessDiagram.Layout
import ChessDiagram.Palette

/-!
# Boards

A grid is drawn as a light rectangle, under dark dashed lines that leave out the light squares,
under the pieces.  Every piece refers to its glyph, which is defined at the start of the drawing.
-/

namespace ChessDiagram.Board

/-- One command of a path: go to a point, or draw a line to the right. -/
inductive PathCommand where
  | moveTo (point : Point Binary32)
  | rightBy (length : Binary32)

namespace PathCommand

def text : PathCommand → Text
  | .moveTo point => "M" ++ point.x.text ++ "," ++ point.y.text
  | .rightBy length => "h" ++ length.text

end PathCommand

def pathText (commands : List PathCommand) : Text :=
  Text.join " " (commands.map PathCommand.text)

/-- The commands of the lines along the rows, relative to a corner of the board. -/
def squaresPath (layout : Layout Binary32) (corner : Point Binary32) : List PathCommand :=
  layout.rowSegments.flatMap fun segment =>
    [.moveTo (corner + segment.offset), .rightBy segment.length]

def background (layout : Layout Binary32) (palette : Palette) (corner : Point Binary32) : Markup :=
  .node "rect"
    [("x", corner.x.text),
      ("y", corner.y.text),
      ("width", layout.boardSize.width.text),
      ("height", layout.boardSize.height.text),
      ("fill", palette.light.text)]
    []

def squares (layout : Layout Binary32) (palette : Palette) (corner : Point Binary32) : Markup :=
  let path : List (Text × Text) :=
    [("d", pathText (squaresPath layout corner)), ("fill", "none")]
  .node "path" (path ++ (Stroke.dashed palette.dark layout.cellSize).attributes) []

def checkerboard (layout : Layout Binary32) (palette : Palette) (corner : Point Binary32) :
    Layered :=
  (Layered.empty.add .background (background layout palette corner)).add .squares
    (squares layout palette corner)

def placement (piece : Piece) (position : Point Binary32) : Markup :=
  .node "use"
    [("href", "#" ++ piece.glyphName),
      ("x", position.x.text),
      ("y", position.y.text)]
    []

def placePieces (layout : Layout Binary32) (grid : Grid) (drawing : Layered) : Layered :=
  grid.cells.foldl
    (fun drawing (x, y, cell) =>
      match Piece.ofCode? cell with
      | some piece =>
          drawing.merge
            (Layered.empty.add .pieces (placement piece (layout.cellPosition x y)))
      | none => drawing)
    drawing

def layoutOf (grid : Grid) (canvas : Binary32) : Layout Binary32 where
  width := grid.width
  height := grid.height
  canvas := canvas

/-- The drawing of a grid on a canvas that can be drawn on. -/
def document (grid : Grid) (palette : Palette) (canvas : Binary32) : Markup :=
  let layout := layoutOf grid canvas
  let viewBox : Size Binary32 := layout.viewBox
  let drawing := placePieces layout grid (checkerboard layout palette layout.origin)
  .node "svg"
    [("xmlns", "http://www.w3.org/2000/svg"),
      ("width", "100%"),
      ("height", "100%"),
      ("viewBox", "0 0 " ++ viewBox.width.text ++ " " ++ viewBox.height.text)]
    (Glyphs.definitions layout.cellSize :: drawing.render)

/-- A canvas is drawn on when its width is finite and above zero. -/
def draw? (grid : Grid) (palette : Palette) (canvas : Binary32) : Option Markup :=
  if canvas.isPositive then some (document grid palette canvas) else none

end ChessDiagram.Board
