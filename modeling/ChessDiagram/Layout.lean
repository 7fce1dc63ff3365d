import ChessDiagram.Geometry

/-!
# Board layout

A board of `width` by `height` cells is drawn on a canvas of a given width.  The cell size leaves
room for one more cell in each direction, half of it on every side as a margin.

The dark squares of a row are painted by one dashed line along the middle of the row, with dashes
and gaps one cell long.  A line starts at the board's edge or one cell further right, so that the
rows alternate and the bottom right square is dark.
-/

namespace ChessDiagram

structure Layout (α : Type) where
  width : Nat
  height : Nat
  canvas : α

/-- The line along one row, placed relative to the board. -/
structure RowSegment (α : Type) where
  offset : Point α
  length : α

namespace Layout

variable [NatCast α] [Add α] [Mul α] [Div α] (layout : Layout α)

def cellSize : α :=
  layout.canvas / ((layout.width + 1 : Nat) : α)

/-- The top left corner of the board. -/
def origin : Point α :=
  let half := layout.cellSize / ((2 : Nat) : α)
  { x := half, y := half }

def boardSize : Size α :=
  Size.scale { width := (layout.width : α), height := (layout.height : α) } layout.cellSize

/-- The drawn area, board and margin together. -/
def viewBox : Size α where
  width := layout.canvas
  height := layout.canvas * ((layout.height + 1 : Nat) : α) / ((layout.width + 1 : Nat) : α)

/-- The top left corner of a cell. -/
def cellPosition (x y : Nat) : Point α :=
  layout.origin + { x := (x : α) * layout.cellSize, y := (y : α) * layout.cellSize }

omit [NatCast α] [Add α] [Mul α] [Div α] in
/-- Whether the leftmost square of a row is dark. -/
def startsAtEdge (row : Nat) : Bool :=
  (row % 2 == 0) == (layout.width % 2 == layout.height % 2)

/-- The line of one row, unless it would have no length. -/
def rowSegment? (row : Nat) : Option (RowSegment α) :=
  let cellSize := layout.cellSize
  let y := (row : α) * cellSize + cellSize / ((2 : Nat) : α)
  let (x, cells) :=
    if layout.startsAtEdge row then (((0 : Nat) : α), layout.width)
    else (cellSize, layout.width - 1)
  if 0 < cells then
    some { offset := { x, y }, length := (cells : α) * cellSize }
  else
    none

def rowSegments : List (RowSegment α) :=
  (List.range layout.height).filterMap layout.rowSegment?

end Layout

end ChessDiagram
