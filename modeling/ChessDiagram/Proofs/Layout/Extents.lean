import ChessDiagram.Layout
import ChessDiagram.Proofs.Number.Arithmetic
import ChessDiagram.Proofs.Number.Order

/-!
# The extents of a rounded layout

The cell size of a layout is the canvas over the columns and the margin, rounded.  It is finite on
every canvas, and above zero unless the quotient is at most half of the least number.  The height of
the drawn area multiplies the canvas by the rows before it divides; where that product is finite,
every place on the board is at most a little more than half of the range.
-/

namespace ChessDiagram

namespace Layout

section Places

variable {α : Type} [NatCast α] [Add α] [Mul α] [Div α] {layout : Layout α}

/-- What the line of a row is computed from. -/
theorem exists_of_mem_rowSegments {segment : RowSegment α} (member : segment ∈ layout.rowSegments) :
    ∃ row cells, row < layout.height ∧ cells ≤ layout.width ∧
      (segment.offset.x = ((0 : Nat) : α) ∨ segment.offset.x = layout.cellSize) ∧
      segment.offset.y = (row : α) * layout.cellSize + layout.cellSize / ((2 : Nat) : α) ∧
      segment.length = (cells : α) * layout.cellSize := by
  obtain ⟨row, rowMember, found⟩ := List.mem_filterMap.mp member
  have inside : row < layout.height := List.mem_range.mp rowMember
  unfold rowSegment? at found
  by_cases edge : layout.startsAtEdge row = true
  · simp only [edge, if_true] at found
    obtain ⟨-, same⟩ := Option.ite_none_right_eq_some.mp found
    obtain rfl := Option.some.inj same
    exact ⟨row, layout.width, inside, le_rfl, .inl rfl, rfl, rfl⟩
  · simp only [edge, Bool.false_eq_true, if_false] at found
    obtain ⟨-, same⟩ := Option.ite_none_right_eq_some.mp found
    obtain rfl := Option.some.inj same
    exact ⟨row, layout.width - 1, inside, Nat.sub_le _ _, .inr rfl, rfl, rfl⟩

end Places

open Floating

/-- The exact values from which a layout is computed: its canvas, and its columns and rows, each
with one more for the margin, as they are rounded. -/
structure Measured (layout : Layout Binary32) (canvas columns rows : Rat) : Prop where
  canvas_known : layout.canvas.value? = some canvas
  canvas_pos : 0 < canvas
  columns_known : ((layout.width + 1 : Nat) : Binary32).value? = some columns
  rows_known : ((layout.height + 1 : Nat) : Binary32).value? = some rows
  columns_near : 1023 / 1024 * ((layout.width + 1 : Nat) : Rat) ≤ columns
  rows_near : 1023 / 1024 * ((layout.height + 1 : Nat) : Rat) ≤ rows
  width_pos : 0 < layout.width
  height_pos : 0 < layout.height
  width_lt : layout.width < Nat.pow 2 64
  height_lt : layout.height < Nat.pow 2 64

theorem exists_measured {layout : Layout Binary32} (accepted : layout.canvas.isPositive = true)
    (width_pos : 0 < layout.width) (height_pos : 0 < layout.height)
    (width_lt : layout.width < Nat.pow 2 64) (height_lt : layout.height < Nat.pow 2 64) :
    ∃ canvas columns rows, layout.Measured canvas columns rows := by
  obtain ⟨canvas, canvas_known, canvas_pos⟩ := isPositive_iff.mp accepted
  obtain ⟨columns, columns_known, columns_near, -⟩ := exists_value?_cast width_lt
  obtain ⟨rows, rows_known, rows_near, -⟩ := exists_value?_cast height_lt
  refine ⟨canvas, columns, rows, ?_⟩
  constructor <;> assumption

namespace Measured

variable {layout : Layout Binary32} {canvas columns rows : Rat}

theorem columns_ge (measured : layout.Measured canvas columns rows) : 1023 / 512 ≤ columns := by
  have two : (2 : Rat) ≤ (layout.width + 1 : Nat) := by
    exact_mod_cast Nat.succ_le_succ measured.width_pos
  linarith [measured.columns_near]

theorem rows_ge (measured : layout.Measured canvas columns rows) : 1023 / 512 ≤ rows := by
  have two : (2 : Rat) ≤ (layout.height + 1 : Nat) := by
    exact_mod_cast Nat.succ_le_succ measured.height_pos
  linarith [measured.rows_near]

theorem columns_pos (measured : layout.Measured canvas columns rows) : 0 < columns := by
  linarith [measured.columns_ge]

theorem rows_pos (measured : layout.Measured canvas columns rows) : 0 < rows := by
  linarith [measured.rows_ge]

/-- The exact quotient of which the cell size is the rounded one. -/
theorem quotient_pos (measured : layout.Measured canvas columns rows) : 0 < canvas / columns :=
  div_pos measured.canvas_pos measured.columns_pos

theorem value?_cellSize (measured : layout.Measured canvas columns rows) :
    layout.cellSize.value? = some (Format.binary32.rounded (canvas / columns)) := by
  have one : 1 ≤ columns := by linarith [measured.columns_ge]
  have bound : canvas / columns ≤ Format.binary32.greatestNumber :=
    (div_le_self measured.canvas_pos.le one).trans (value?_le_greatestNumber measured.canvas_known)
  rw [cellSize, div_eq_ofRat measured.canvas_known measured.columns_known measured.columns_pos.ne']
  exact value?_ofRat measured.quotient_pos.le (isFinite_ofRat measured.quotient_pos.le bound)

/-- The cell size is above zero unless the quotient is too small for any number of the format. -/
theorem isPositive_cellSize_iff (measured : layout.Measured canvas columns rows) :
    layout.cellSize.isPositive = true ↔ Format.binary32.halfLeast < canvas / columns := by
  rw [isPositive_iff, measured.value?_cellSize,
    ← Format.binary32.rounded_pos_iff measured.quotient_pos.le]
  simp

section InRange

section Height

variable (finite : (layout.canvas * ((layout.height + 1 : Nat) : Binary32)).isFinite = true)
include finite

theorem value?_product (measured : layout.Measured canvas columns rows) :
    (layout.canvas * ((layout.height + 1 : Nat) : Binary32)).value? =
      some (Format.binary32.rounded (canvas * rows)) := by
  have nonneg := (mul_pos measured.canvas_pos measured.rows_pos).le
  rw [mul_eq_ofRat measured.canvas_known measured.rows_known] at finite ⊢
  exact value?_ofRat nonneg finite

/-- A finite product of the canvas and the rows is little more than the range before it is
rounded. -/
theorem product_le (measured : layout.Measured canvas columns rows) :
    canvas * rows ≤ 65 * part := by
  obtain ⟨relative, least, one, -, greatest⟩ := binary32_errors
  have nonneg := (mul_pos measured.canvas_pos measured.rows_pos).le
  have upper := value?_le_greatestNumber (measured.value?_product finite)
  have error := (abs_le.mp (Format.binary32.abs_rounded_sub_le nonneg)).1
  rw [relative] at error
  linarith

theorem upTo_viewBox_height (measured : layout.Measured canvas columns rows) :
    layout.viewBox.height.UpTo 34 := by
  have product : (layout.canvas * ((layout.height + 1 : Nat) : Binary32)).UpTo 64 :=
    ⟨_, measured.value?_product finite, Format.binary32.rounded_nonneg,
      (value?_le_greatestNumber (measured.value?_product finite)).trans binary32_errors.2.2.2.2⟩
  apply product.div measured.columns_known measured.columns_pos _ (by omega)
  push_cast
  linarith [measured.columns_ge]

/-- The drawn area has a height where a cell has a size. -/
theorem isPositive_viewBox_height (measured : layout.Measured canvas columns rows)
    (cellSize : layout.cellSize.isPositive = true) : layout.viewBox.height.isPositive = true := by
  have kept := measured.isPositive_cellSize_iff.mp cellSize
  have least := Format.binary32.halfLeast_pos
  have wide : canvas ≤ Format.binary32.rounded (canvas * rows) := by
    have nonneg := (mul_pos measured.canvas_pos measured.rows_pos).le
    have error := (abs_le.mp (Format.binary32.abs_rounded_sub_le nonneg)).1
    rw [binary32_errors.1] at error
    have twice := mul_le_mul_of_nonneg_left measured.rows_ge measured.canvas_pos.le
    have share := mul_le_mul_of_nonneg_left measured.columns_ge least.le
    have above := (lt_div_iff₀ measured.columns_pos).mp kept
    linarith
  have quotient : Format.binary32.halfLeast < Format.binary32.rounded (canvas * rows) / columns :=
    kept.trans_le (div_le_div_of_nonneg_right wide measured.columns_pos.le)
  have bounded := (measured.upTo_viewBox_height finite).isFinite
  have height : layout.viewBox.height = ofRat _ _ :=
    div_eq_ofRat (measured.value?_product finite) measured.columns_known measured.columns_pos.ne'
  have nonneg := (least.trans quotient).le
  rw [height] at bounded ⊢
  exact isPositive_iff.mpr ⟨_, value?_ofRat nonneg bounded,
    (Format.binary32.rounded_pos_iff nonneg).mpr quotient⟩

end Height

/-- An extent stays in the range when its cell size is rounded and its count of cells is another,
rounded a little differently. -/
private theorem product_le_of_extent (measured : layout.Measured canvas columns rows)
    {extent count : Rat} (nonneg : 0 ≤ extent) (extentRange : extent ≤ 64 * part)
    (span : extent * (canvas / columns) ≤ 33 * part) (close : count ≤ 1025 / 1023 * extent) :
    count * Format.binary32.rounded (canvas / columns) ≤ 34 * part := by
  obtain ⟨relative, least, one, -, -⟩ := binary32_errors
  have error := (abs_le.mp (Format.binary32.abs_rounded_sub_le measured.quotient_pos.le)).2
  rw [relative] at error
  have size : Format.binary32.rounded (canvas / columns) ≤
      canvas / columns * (16777217 / 16777216) + 1 / 16777216 := by linarith
  calc
    count * Format.binary32.rounded (canvas / columns)
        ≤ 1025 / 1023 * extent * Format.binary32.rounded (canvas / columns) :=
          mul_le_mul_of_nonneg_right close Format.binary32.rounded_nonneg
    _ ≤ 1025 / 1023 * extent * (canvas / columns * (16777217 / 16777216) + 1 / 16777216) :=
          mul_le_mul_of_nonneg_left size (by linarith)
    _ = 1025 / 1023 * (extent * (canvas / columns) * (16777217 / 16777216) +
          extent / 16777216) := by ring
    _ ≤ 34 * part := by linarith

variable (inRange : canvas * rows ≤ 65 * part)
include inRange

theorem canvas_le (measured : layout.Measured canvas columns rows) : canvas ≤ 33 * part := by
  have share := mul_le_mul_of_nonneg_left measured.rows_ge measured.canvas_pos.le
  linarith [binary32_errors.2.2.1]

theorem quotient_le (measured : layout.Measured canvas columns rows) :
    canvas / columns ≤ 17 * part := by
  have one := binary32_errors.2.2.1
  rw [div_le_iff₀ measured.columns_pos]
  have share := mul_le_mul_of_nonneg_left measured.columns_ge (by linarith : 0 ≤ 17 * part)
  linarith [measured.canvas_le inRange]

theorem upTo_cellSize (measured : layout.Measured canvas columns rows) :
    layout.cellSize.UpTo 18 :=
  ⟨_, measured.value?_cellSize, Format.binary32.rounded_nonneg,
    rounded_le_parts measured.quotient_pos.le (measured.quotient_le inRange) (by omega)⟩

/-- The exact extent of the board in either direction, with its margin. -/
private theorem span_le (measured : layout.Measured canvas columns rows) :
    columns * (canvas / columns) ≤ 33 * part ∧ rows * (canvas / columns) ≤ 33 * part := by
  have one := binary32_errors.2.2.1
  constructor
  · rw [mul_div_cancel₀ _ measured.columns_pos.ne']
    exact measured.canvas_le inRange
  · rw [← mul_div_assoc, div_le_iff₀ measured.columns_pos]
    have share := mul_le_mul_of_nonneg_left measured.columns_ge (by linarith : 0 ≤ 33 * part)
    linarith

/-- A count of cells in either direction, times the cell size. -/
theorem upTo_count_mul_cellSize (measured : layout.Measured canvas columns rows) {count : Nat}
    (inside : count ≤ layout.width ∨ count ≤ layout.height) :
    ((count : Binary32) * layout.cellSize).UpTo 35 := by
  have width := measured.width_lt
  have height := measured.height_lt
  obtain ⟨columnsSpan, rowsSpan⟩ := measured.span_le inRange
  obtain ⟨-, -, -, -, greatest⟩ := binary32_errors
  have word : count ≤ Nat.pow 2 64 := by omega
  obtain ⟨value, known, lower, upper⟩ := exists_value?_cast word
  have nonneg : 0 ≤ value := by
    have countNonneg : (0 : Rat) ≤ count := Nat.cast_nonneg count
    linarith
  have product : value * Format.binary32.rounded (canvas / columns) ≤ 34 * part := by
    rcases inside with column | row
    · have cells : (count : Rat) ≤ (layout.width + 1 : Nat) := by exact_mod_cast column.step
      have close : value ≤ 1025 / 1023 * columns := by linarith [measured.columns_near]
      exact measured.product_le_of_extent measured.columns_pos.le
        ((value?_le_greatestNumber measured.columns_known).trans greatest) columnsSpan close
    · have cells : (count : Rat) ≤ (layout.height + 1 : Nat) := by exact_mod_cast row.step
      have close : value ≤ 1025 / 1023 * rows := by linarith [measured.rows_near]
      exact measured.product_le_of_extent measured.rows_pos.le
        ((value?_le_greatestNumber measured.rows_known).trans greatest) rowsSpan close
  rw [mul_eq_ofRat known measured.value?_cellSize]
  exact upTo_ofRat (mul_nonneg nonneg Format.binary32.rounded_nonneg) product (by omega)

theorem upTo_half (measured : layout.Measured canvas columns rows) :
    (layout.cellSize / ((2 : Nat) : Binary32)).UpTo 11 := by
  obtain ⟨two, known, near, -⟩ := exists_value?_cast (show 2 ≤ Nat.pow 2 64 by decide)
  apply (measured.upTo_cellSize inRange).div known
  · push_cast at near
    linarith
  · push_cast at near ⊢
    linarith
  · omega

theorem upTo_boardSize (measured : layout.Measured canvas columns rows) :
    layout.boardSize.width.UpTo 35 ∧ layout.boardSize.height.UpTo 35 :=
  ⟨measured.upTo_count_mul_cellSize inRange (.inl le_rfl),
    measured.upTo_count_mul_cellSize inRange (.inr le_rfl)⟩

theorem upTo_cellPosition (measured : layout.Measured canvas columns rows) {x y : Nat}
    (left : x < layout.width) (upper : y < layout.height) :
    (layout.cellPosition x y).x.UpTo 47 ∧ (layout.cellPosition x y).y.UpTo 47 := by
  have half := measured.upTo_half inRange
  have across := half.add (measured.upTo_count_mul_cellSize inRange (.inl left.le)) (by omega)
  have down := half.add (measured.upTo_count_mul_cellSize inRange (.inr upper.le)) (by omega)
  exact ⟨across, down⟩

/-- The line of a row, both where it starts on the board and how long it is. -/
theorem upTo_of_mem_rowSegments (measured : layout.Measured canvas columns rows)
    {segment : RowSegment Binary32} (member : segment ∈ layout.rowSegments) :
    (layout.origin + segment.offset).x.UpTo 30 ∧ (layout.origin + segment.offset).y.UpTo 59 ∧
      segment.length.UpTo 35 := by
  obtain ⟨row, cells, inside, few, start, line, length⟩ := exists_of_mem_rowSegments member
  have half := measured.upTo_half inRange
  have startUpTo : segment.offset.x.UpTo 18 := by
    rcases start with edge | next
    · rw [edge]
      exact upTo_zero.mono (by omega)
    · rw [next]
      exact measured.upTo_cellSize inRange
  have middle := (measured.upTo_count_mul_cellSize inRange (.inr inside.le)).add half (by omega)
  rw [← line] at middle
  have across := half.add startUpTo (by omega)
  have down := half.add middle (by omega)
  rw [length]
  exact ⟨across, down, measured.upTo_count_mul_cellSize inRange (.inl few)⟩

end InRange

end Measured

end Layout

end ChessDiagram
