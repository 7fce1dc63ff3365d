import ChessDiagram.Proofs.Grid.Cells
import Mathlib.Order.MinMax

/-!
# Filling up rows

A grid is made of rows of any lengths by writing empty cells behind the shorter ones.  Nothing is
lost, moved or brought in besides: every given cell is found at its place, every other place of the
rectangle is empty, and the pieces are those of the given cells.  The rectangle has the rows of its
grid, so that a grid is the grid of its own rows.
-/

namespace ChessDiagram

namespace Grid

theorem pad_of_length {width : Nat} {row : List Text} (full : row.length = width) :
    pad width row = row := by
  simp [pad, full]

theorem getElem?_pad {width : Nat} {row : List Text} (fits : row.length ≤ width) (x : Nat) :
    (pad width row)[x]? = if x < width then some (row[x]?.getD []) else none := by
  rw [pad, List.getElem?_append]
  split
  case isTrue inside =>
    rw [if_pos (inside.trans_le fits), List.getElem?_eq_getElem inside, Option.getD_some]
  case isFalse behind =>
    rw [List.getElem?_replicate, List.getElem?_eq_none (Nat.not_lt.mp behind), Option.getD_none]
    exact if_congr (by omega) rfl rfl

theorem widest_eq_max? (rows : List (List Text)) :
    widest rows = max 1 ((rows.map List.length).max?.getD 0) := by
  induction rows with
  | nil => rfl
  | cons row rows induction =>
      show max row.length (widest rows) = _
      rw [induction, List.map_cons, List.max?_cons, Option.getD_some]
      cases (rows.map List.length).max? with
      | none => simp [Nat.max_comm]
      | some longest =>
          simp only [Option.getD_some, Option.elim_some]
          exact Nat.max_left_comm _ _ _

theorem widest_of_lengths {rows : List (List Text)} {width : Nat} (positive : 0 < width)
    (nonempty : rows ≠ []) (full : ∀ row ∈ rows, row.length = width) : widest rows = width := by
  have atMost : ∀ rows : List (List Text), (∀ row ∈ rows, row.length = width) →
      widest rows ≤ width := by
    intro rows full
    induction rows with
    | nil => exact positive
    | cons row rows induction =>
        obtain ⟨first, others⟩ := List.forall_mem_cons.mp full
        exact Nat.max_le.mpr ⟨first.le, induction others⟩
  obtain ⟨row, member⟩ := List.exists_mem_of_ne_nil rows nonempty
  have attained := length_le_widest member
  rw [full row member] at attained
  exact Nat.le_antisymm (atMost rows full) attained

/-- A grid is the grid of its own rows. -/
theorem ofRows_rows (grid : Grid) : ofRows grid.rows = grid := by
  cases grid with
  | mk width rows width_pos rows_ne_nil row_length =>
      have sameWidth : widest rows = width := widest_of_lengths width_pos rows_ne_nil row_length
      have sameRows : paddedRows rows = rows := by
        rw [paddedRows, if_neg (by simpa using rows_ne_nil), sameWidth,
          List.map_congr_left fun row member => pad_of_length (row_length row member),
          List.map_id']
      simp only [ofRows, mk.injEq]
      exact ⟨sameWidth, sameRows⟩

/-- Padding brings nothing but empty cells into a grid. -/
theorem cell_of_mem_ofRows {rows : List (List Text)} {row : List Text}
    (member : row ∈ (ofRows rows).rows) {cell : Text} (cellMember : cell ∈ row) :
    cell = [] ∨ ∃ source ∈ rows, cell ∈ source := by
  obtain ⟨source, sourceMember, rfl⟩ := List.mem_map.mp member
  rcases List.mem_append.mp cellMember with own | padding
  · split at sourceMember
    · rw [List.mem_singleton.mp sourceMember] at own
      cases own
    · exact .inr ⟨source, sourceMember, own⟩
  · exact .inl (List.eq_of_mem_replicate padding)

/-- The cell that rows of any lengths have in column `x` of row `y`. -/
def given? (rows : List (List Text)) (x y : Nat) : Option Text :=
  rows[y]?.bind fun row => row[x]?

theorem given?_eq_getElem? (rows : List (List Text)) (x y : Nat) :
    given? rows x y = (rows[y]?.getD [])[x]? := by
  unfold given?
  cases rows[y]? <;> rfl

theorem height_ofRows (rows : List (List Text)) :
    (ofRows rows).height = max 1 rows.length := by
  cases rows with
  | nil => rfl
  | cons row rows => simp [height, ofRows, paddedRows]

theorem getElem?_rows_ofRows (rows : List (List Text)) (y : Nat) :
    (ofRows rows).rows[y]? =
      if y < (ofRows rows).height then some (pad (widest rows) (rows[y]?.getD [])) else none := by
  rw [height_ofRows]
  cases rows with
  | nil => cases y <;> simp [ofRows, paddedRows]
  | cons row rows =>
      show ((row :: rows).map (pad (widest (row :: rows))))[y]? = _
      rw [List.getElem?_map]
      split
      case isTrue inside =>
        have below : y < (row :: rows).length := by simpa using inside
        rw [List.getElem?_eq_getElem below, Option.map_some, Option.getD_some]
      case isFalse outside =>
        have above : (row :: rows).length ≤ y := by simpa using outside
        rw [List.getElem?_eq_none above, Option.map_none]

/-- A grid has the given cells, and empty ones in all other places of its rectangle. -/
theorem cell?_ofRows (rows : List (List Text)) (x y : Nat) :
    (ofRows rows).cell? x y =
      if x < (ofRows rows).width ∧ y < (ofRows rows).height then
        some ((given? rows x y).getD [])
      else none := by
  have fits : (rows[y]?.getD []).length ≤ widest rows := by
    cases found : rows[y]? with
    | none => exact Nat.zero_le _
    | some row => exact length_le_widest (List.mem_of_getElem? found)
  rw [cell?, getElem?_rows_ofRows, given?_eq_getElem?, ite_and]
  by_cases above : y < (ofRows rows).height
  · simp only [if_pos above, Option.bind_some]
    exact getElem?_pad fits x
  · simp only [if_neg above, Option.bind_none, ite_self]

theorem inside_of_given? {rows : List (List Text)} {x y : Nat} {cell : Text}
    (found : given? rows x y = some cell) :
    x < (ofRows rows).width ∧ y < (ofRows rows).height := by
  obtain ⟨row, rowFound, cellFound⟩ := Option.bind_eq_some_iff.mp found
  obtain ⟨left, -⟩ := List.getElem?_eq_some_iff.mp cellFound
  obtain ⟨above, -⟩ := List.getElem?_eq_some_iff.mp rowFound
  refine ⟨left.trans_le (length_le_widest (List.mem_of_getElem? rowFound)), ?_⟩
  rw [height_ofRows]
  exact above.trans_le (Nat.le_max_right _ _)

/-- A piece stands where the code of a piece is given. -/
theorem mem_pieces_ofRows_iff {rows : List (List Text)} {x y : Nat} {piece : Piece} :
    (x, y, piece) ∈ (ofRows rows).pieces ↔
      ∃ cell, given? rows x y = some cell ∧ Text.agrees cell piece.code = true := by
  rw [mem_pieces_iff, cell?_ofRows]
  constructor
  · rintro ⟨cell, place, code⟩
    obtain ⟨-, same⟩ := Option.ite_none_right_eq_some.mp place
    obtain rfl := Option.some.inj same
    cases found : given? rows x y with
    | none =>
        rw [found] at code
        cases code
    | some cell =>
        rw [found] at code
        exact ⟨cell, rfl, code⟩
  · rintro ⟨cell, found, code⟩
    refine ⟨cell, ?_, code⟩
    rw [if_pos (inside_of_given? found), found, Option.getD_some]

private theorem map_zipIdx {α β : Type} (list : List α) (image : Nat → Option α → β) :
    (list.zipIdx.map fun numbered => image numbered.2 (some numbered.1)) =
      (List.range list.length).map fun index => image index list[index]? := by
  apply List.ext_getElem
  · simp
  · intro index inZip inRange
    have inside : index < list.length := by simpa using inRange
    simp [inside]

/-- The listed cells are those that are found in the places of the rectangle, row by row. -/
theorem cells_eq_flatMap (grid : Grid) :
    (grid.cells.map fun found => (found.1, found.2.1, some found.2.2)) =
      (List.range grid.height).flatMap fun y =>
        (List.range grid.width).map fun x => (x, y, grid.cell? x y) := by
  rw [cells, List.map_flatMap]
  calc
    _ = grid.rows.zipIdx.flatMap fun numbered =>
          (List.range grid.width).map fun x => (x, numbered.2, numbered.1[x]?) := by
      apply List.flatMap_congr
      rintro ⟨row, y⟩ member
      have inRows : row ∈ grid.rows := List.fst_mem_of_mem_zipIdx member
      rw [List.map_map, ← grid.row_length row inRows]
      exact map_zipIdx row fun x cell => (x, y, cell)
    _ = _ := by
      rw [List.flatMap_def, List.flatMap_def]
      exact congrArg List.flatten (map_zipIdx grid.rows fun y row =>
        (List.range grid.width).map fun x => (x, y, row.bind fun row => row[x]?))

/-- A grid is what given rows are filled up to.  All its views agree: the rows are a rectangle that
is just high and wide enough, with at least one row and one column; every place has the given cell,
or an empty one, or is outside; the listed cells are those of all places, row by row; and the pieces
are the given codes of pieces, in the same order. -/
structure FilledUp (rows : List (List Text)) (grid : Grid) : Prop where
  height : grid.height = max 1 rows.length
  width : grid.width = max 1 ((rows.map List.length).max?.getD 0)
  rectangular : ∀ row ∈ grid.rows, row.length = grid.width
  given : ∀ x y cell, given? rows x y = some cell → grid.cell? x y = some cell
  empty : ∀ x y, given? rows x y = none → x < grid.width → y < grid.height →
    grid.cell? x y = some []
  outside : ∀ x y, grid.width ≤ x ∨ grid.height ≤ y → grid.cell? x y = none
  cells : (grid.cells.map fun found => (found.1, found.2.1, some found.2.2)) =
    (List.range grid.height).flatMap fun y =>
      (List.range grid.width).map fun x => (x, y, grid.cell? x y)
  pieces : ∀ x y (piece : Piece), (x, y, piece) ∈ grid.pieces ↔
    ∃ cell, given? rows x y = some cell ∧ Text.agrees cell piece.code = true
  ordered : grid.pieces.Pairwise RowMajor

/-- Rows of any lengths are filled up to a grid, and a grid is the grid of its own rows. -/
theorem filledUp_ofRows :
    (∀ rows : List (List Text), FilledUp rows (ofRows rows)) ∧
      ∀ grid : Grid, ofRows grid.rows = grid := by
  refine ⟨fun rows => ?_, ofRows_rows⟩
  constructor
  case height => exact height_ofRows rows
  case width => exact widest_eq_max? rows
  case rectangular => exact (ofRows rows).row_length
  case given =>
    intro x y cell found
    rw [cell?_ofRows, if_pos (inside_of_given? found), found, Option.getD_some]
  case empty =>
    intro x y missing left above
    rw [cell?_ofRows, if_pos ⟨left, above⟩, missing, Option.getD_none]
  case outside =>
    intro x y beyond
    rw [cell?_ofRows, if_neg (by omega)]
  case cells => exact cells_eq_flatMap (ofRows rows)
  case pieces =>
    intro x y piece
    exact mem_pieces_ofRows_iff
  case ordered => exact pieces_rowMajor (ofRows rows)

end Grid

end ChessDiagram
