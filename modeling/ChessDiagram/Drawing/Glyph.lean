import ChessDiagram.Drawing.Stroke
import ChessDiagram.Piece

/-!
# Glyphs

Every piece is drawn by a glyph of its kind: a few paths on a square of 45 units, filled in the tone
of its side and outlined in the other tone.  A drawing defines the twelve glyphs once, scaled to the
cell size, and refers to them by name.
-/

namespace ChessDiagram

namespace PieceKind

def pathCommands : PieceKind → List (List String)
  | .king => [
    ["M 22.5,11.6", "L 22.5,6", "M 20,8", "L 25,8"],
    ["M 22.5,25", "C 22.5,25 27,17.5 25.5,14.5", "C 25.5,14.5 24.5,12 22.5,12",
      "C 20.5,12 19.5,14.5 19.5,14.5", "C 18,17.5 22.5,25 22.5,25", "Z"],
    ["M 12.5,37", "C 18,40.5 27,40.5 32.5,37", "L 32.5,30", "C 32.5,30 41.5,25.5 38.5,19.5",
      "C 34.5,13 25,16 22.5,23.5", "L 22.5,27", "L 22.5,23.5", "C 20,16 10.5,13 6.5,19.5",
      "C 3.5,25.5 12.5,30 12.5,30", "L 12.5,37", "Z"],
    ["M 12.5,30", "C 18,27 27,27 32.5,30", "M 12.5,33.5", "C 18,30.5 27,30.5 32.5,33.5",
      "M 12.5,37", "C 18,34 27,34 32.5,37"]]
  | .queen => [
    ["M 4,12", "A 2,2 0 1 1 8,12", "A 2,2 0 1 1 4,12", "Z"],
    ["M 12,9", "A 2,2 0 1 1 16,9", "A 2,2 0 1 1 12,9", "Z"],
    ["M 20.5,8", "A 2,2 0 1 1 24.5,8", "A 2,2 0 1 1 20.5,8", "Z"],
    ["M 29,9", "A 2,2 0 1 1 33,9", "A 2,2 0 1 1 29,9", "Z"],
    ["M 37,12", "A 2,2 0 1 1 41,12", "A 2,2 0 1 1 37,12", "Z"],
    ["M 9,26", "C 17.5,24.5 30,24.5 36,26", "L 38.5,13.5", "L 31,25", "L 30.7,10.9",
      "L 25.5,24.5", "L 22.5,10", "L 19.5,24.5", "L 14.3,10.9", "L 14,25", "L 6.5,13.5", "L 9,26",
      "Z"],
    ["M 9,26", "C 9,28 10.5,28 11.5,30", "C 12.5,31.5 12.5,31 12,33.5", "C 10.5,34.5 11,36 11,36",
      "C 9.5,37.5 11,38.5 11,38.5", "C 17.5,39.5 27.5,39.5 34,38.5", "C 34,38.5 35.5,37.5 34,36",
      "C 34,36 34.5,34.5 33,33.5", "C 32.5,31 32.5,31.5 33.5,30", "C 34.5,28 36,28 36,26",
      "C 27.5,24.5 17.5,24.5 9,26", "Z"]]
  | .rook => [
    ["M 9,39", "L 36,39", "L 36,36", "L 9,36", "Z"],
    ["M 12,36", "L 12,32", "L 33,32", "L 33,36", "Z"],
    ["M 11,14", "L 11,9", "L 15,9", "L 15,11", "L 20,11", "L 20,9", "L 25,9", "L 25,11",
      "L 30,11", "L 30,9", "L 34,9", "L 34,14", "Z"],
    ["M 34,14", "L 31,17", "L 14,17", "L 11,14", "Z"],
    ["M 31,17", "L 31,29.5", "L 14,29.5", "L 14,17", "Z"],
    ["M 31,29.5", "L 32.5,32", "L 12.5,32", "L 14,29.5", "Z"]]
  | .bishop => [
    ["M 9,36", "C 12.4,35 19.1,36.4 22.5,34", "C 25.9,36.4 32.6,35 36,36",
      "C 36,36 37.6,36.5 39,38", "C 38.3,39 37.3,39 36,38.5", "C 32.6,37.5 25.9,39 22.5,37.5",
      "C 19.1,39 12.4,37.5 9,38.5", "C 7.6,39 6.7,39 6,38", "C 7.4,36.5 9,36 9,36", "Z"],
    ["M 15,32", "C 17.5,34.5 27.5,34.5 30,32", "C 30.5,30.5 30,30 30,30",
      "C 30,27.5 27.5,26 27.5,26", "C 33,24.5 33.5,14.5 22.5,10.5", "C 11.5,14.5 12,24.5 17.5,26",
      "C 17.5,26 15,27.5 15,30", "C 15,30 14.5,30.5 15,32", "Z"],
    ["M 20,8", "A 2.5,2.5 0 1 1 25,8", "A 2.5,2.5 0 1 1 20,8", "Z"],
    ["M 17.5,26", "L 27.5,26", "M 15,30", "L 30,30", "M 22.5,15.5", "L 22.5,20.5", "M 20,18",
      "L 25,18"]]
  | .knight => [
    ["M 22,10", "C 32.5,11 38.5,18 38,39", "L 15,39", "C 15,30 25,32.5 23,18"],
    ["M 24,18", "C 24.4,20.9 18.5,25.4 16,27", "C 13,29 13.2,31.3 11,31",
      "C 9.9,30.1 12.4,28 11,28", "C 10,28 11.2,29.2 10,30", "C 9,30 6,31 6,26",
      "C 6,24 12,14 12,14", "C 12,14 13.9,12.1 14,10.5", "C 13.3,9.5 13.5,8.5 13.5,7.5",
      "C 14.5,6.5 16.5,10 16.5,10", "L 18.5,10", "C 18.5,10 19.3,8 21,7", "C 22,7 22,10 22,10"],
    ["M 9.5,25.5", "A 0.5,0.5 0 1 1 8.5,25.5", "A 0.5,0.5 0 1 1 9.5,25.5", "Z"],
    ["M 15,15.5", "A 0.5,1.5 0 1 1 14,15.5", "A 0.5,1.5 0 1 1 15,15.5", "Z"]]
  | .pawn => [
    ["M 22.5,9", "C 20.3,9 18.5,10.8 18.5,13", "C 18.5,13.9 18.8,14.7 19.3,15.4",
      "C 17.3,16.5 16,18.6 16,21", "C 16,23 16.9,24.8 18.4,26", "C 15.4,27.1 11,31.6 11,39.5",
      "L 34,39.5", "C 34,31.6 29.6,27.1 26.6,26", "C 28.1,24.8 29,23 29,21",
      "C 29,18.6 27.7,16.5 25.7,15.4", "C 26.2,14.7 26.5,13.9 26.5,13",
      "C 26.5,10.8 24.7,9 22.5,9", "Z"]]

/-- The paths of a kind's glyph: their commands with spaces between them. -/
def paths (kind : PieceKind) : List Text :=
  kind.pathCommands.map fun commands => Text.join " " (commands.map String.toList)

end PieceKind

namespace Side

def fill : Side → Color
  | .light => Color.white
  | .dark => Color.black

def outline (side : Side) : Color :=
  side.opposite.fill

end Side

namespace Piece

def glyph (piece : Piece) (scale : Binary32) : Markup :=
  let stroke := (Stroke.solid piece.side.outline ((3 : Nat) / (2 : Nat))).rounded
  let filling : List (Text × Text) := [
    ("transform", "scale(" ++ scale.text ++ ")"),
    ("fill", piece.side.fill.text),
    ("fill-rule", "evenodd")]
  let shape := Markup.node "g" (filling ++ stroke.attributes)
    (piece.kind.paths.map fun path => .node "path" [("d", path)] [])
  .node "g" [("id", piece.glyphName)] [shape]

end Piece

namespace Glyphs

/-- The side of the square on which glyphs are designed. -/
def designSize : Nat := 45

def scale (cellSize : Binary32) : Binary32 :=
  cellSize / (designSize : Nat)

def definitions (cellSize : Binary32) : Markup :=
  .node "defs" [] (Piece.all.map fun piece => piece.glyph (scale cellSize))

end Glyphs

end ChessDiagram
