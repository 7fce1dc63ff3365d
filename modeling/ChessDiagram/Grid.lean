import ChessDiagram.Piece

/-!
# Grids

A grid is a full rectangle of cells with at least one row and one column.  A cell holds any text;
the ones that are the code of a piece show that piece, all others show an empty square.

`ofRows` makes a grid of rows of any lengths: the widest row gives the width, shorter rows are
filled up with empty cells, and without rows there is a single empty cell.
-/

namespace ChessDiagram

structure Grid where
  width : Nat
  rows : List (List Text)
  width_pos : 0 < width
  rows_ne_nil : rows ≠ []
  row_length : ∀ row ∈ rows, row.length = width
deriving DecidableEq

namespace Grid

/-- The width that holds every given row. -/
def widest (rows : List (List Text)) : Nat :=
  rows.foldr (fun row width => max row.length width) 1

def pad (width : Nat) (row : List Text) : List Text :=
  row ++ List.replicate (width - row.length) []

theorem one_le_widest (rows : List (List Text)) : 1 ≤ widest rows := by
  induction rows with
  | nil => simp [widest]
  | cons row rows induction => exact Nat.le_trans induction (Nat.le_max_right _ _)

theorem length_le_widest {rows : List (List Text)} {row : List Text} (member : row ∈ rows) :
    row.length ≤ widest rows := by
  induction rows with
  | nil => simp at member
  | cons first rows induction =>
      rcases List.mem_cons.mp member with rfl | later
      · exact Nat.le_max_left _ _
      · exact Nat.le_trans (induction later) (Nat.le_max_right _ _)

theorem length_pad {width : Nat} {row : List Text} (fits : row.length ≤ width) :
    (pad width row).length = width := by
  simp only [pad, List.length_append, List.length_replicate]
  omega

def paddedRows (rows : List (List Text)) : List (List Text) :=
  (if rows.isEmpty then [[]] else rows).map (pad (widest rows))

def ofRows (rows : List (List Text)) : Grid where
  width := widest rows
  rows := paddedRows rows
  width_pos := one_le_widest rows
  rows_ne_nil := by
    cases rows <;> simp [paddedRows]
  row_length := by
    intro row member
    obtain ⟨source, sourceMember, rfl⟩ := List.mem_map.mp member
    cases rows with
    | nil =>
        obtain rfl : source = [] := by simpa using sourceMember
        exact length_pad (Nat.zero_le _)
    | cons first rest => exact length_pad (length_le_widest (by simpa using sourceMember))

/-- The grid of one empty cell. -/
def single : Grid :=
  ofRows []

def height (grid : Grid) : Nat :=
  grid.rows.length

/-- The cell in column `x` of row `y`, counted from the top left. -/
def cell? (grid : Grid) (x y : Nat) : Option Text :=
  grid.rows[y]?.bind fun row => row[x]?

/-- All cells with their columns and rows, row by row. -/
def cells (grid : Grid) : List (Nat × Nat × Text) :=
  grid.rows.zipIdx.flatMap fun (row, y) => row.zipIdx.map fun (cell, x) => (x, y, cell)

/-- The pieces with their columns and rows, row by row. -/
def pieces (grid : Grid) : List (Nat × Nat × Piece) :=
  grid.cells.filterMap fun (x, y, cell) => (Piece.ofCode? cell).map fun piece => (x, y, piece)

end Grid

end ChessDiagram
