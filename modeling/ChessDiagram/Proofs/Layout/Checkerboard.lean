import ChessDiagram.Layout
import Mathlib.Algebra.Order.Field.Basic
import Mathlib.Algebra.Order.Ring.Rat
import Mathlib.Data.Nat.Cast.Order.Ring
import Mathlib.Tactic.FieldSimp
import Mathlib.Tactic.Linarith
import Mathlib.Tactic.Ring

/-!
# The checkerboard of the dashed lines

The dark squares are not drawn one by one.  Every row has a line along its middle, as wide as a cell
is high and with dashes and gaps as long as a cell, and the place where it starts decides which of
its cells are dark.  Computed without rounding, the lines paint a checkerboard whose bottom right
square is dark, whatever the parities of width and height are.
-/

namespace ChessDiagram

namespace Layout

section Parity

variable {α : Type}

/-- A cell of the board is dark when it is an even number of steps away from the bottom right one. -/
def IsDark (layout : Layout α) (x y : Nat) : Prop :=
  x < layout.width ∧ y < layout.height ∧
    Even ((layout.width - 1 - x) + (layout.height - 1 - y))

/-- The column of the leftmost dark cell of a row. -/
def firstDark (layout : Layout α) (row : Nat) : Nat :=
  if layout.startsAtEdge row then 0 else 1

variable {layout : Layout α}

theorem startsAtEdge_iff (layout : Layout α) (row : Nat) :
    layout.startsAtEdge row = true ↔ Even (layout.width + layout.height + row) := by
  unfold startsAtEdge
  rw [beq_iff_eq, Bool.eq_iff_iff, Nat.even_iff]
  simp only [beq_iff_eq]
  omega

theorem firstDark_eq (row : Nat) :
    layout.firstDark row = (layout.width + layout.height + row) % 2 := by
  have edge := startsAtEdge_iff layout row
  rw [Nat.even_iff] at edge
  unfold firstDark
  split
  case isTrue starts =>
    exact (edge.mp starts).symm
  case isFalse starts =>
    have odd := mt edge.mpr starts
    omega

/-- From its leftmost dark cell on, every other cell of a row is dark. -/
theorem isDark_iff {x row : Nat} (inside : row < layout.height) :
    layout.IsDark x row ↔ x < layout.width ∧ ∃ count, x = layout.firstDark row + 2 * count := by
  unfold IsDark
  rw [firstDark_eq, Nat.even_iff]
  constructor
  · rintro ⟨left, -, steps⟩
    exact ⟨left, x / 2, by omega⟩
  · rintro ⟨left, count, rfl⟩
    exact ⟨left, inside, by omega⟩

theorem isDark_right_iff {x y : Nat} (right : x + 1 < layout.width) (inside : y < layout.height) :
    layout.IsDark (x + 1) y ↔ ¬ layout.IsDark x y := by
  simp only [IsDark, Nat.even_iff]
  omega

theorem isDark_below_iff {x y : Nat} (inside : x < layout.width) (below : y + 1 < layout.height) :
    layout.IsDark x (y + 1) ↔ ¬ layout.IsDark x y := by
  simp only [IsDark, Nat.even_iff]
  omega

theorem isDark_last (width : 0 < layout.width) (height : 0 < layout.height) :
    layout.IsDark (layout.width - 1) (layout.height - 1) := by
  simp only [IsDark, Nat.even_iff]
  omega

end Parity

end Layout

section Places

variable {α : Type} [Field α]

namespace Layout

/-- The top left corner of a cell, relative to the board. -/
def corner (layout : Layout α) (x y : Nat) : Point α where
  x := x * layout.cellSize
  y := y * layout.cellSize

/-- The line along a row, from the leftmost dark cell to the right edge of the board. -/
def rowLine (layout : Layout α) (row : Nat) : RowSegment α where
  offset := {
    x := layout.firstDark row * layout.cellSize
    y := row * layout.cellSize + layout.cellSize / 2 }
  length := (layout.width - layout.firstDark row : Nat) * layout.cellSize

variable {layout : Layout α}

/-- Every row has its line, unless its leftmost dark cell would lie outside of the board. -/
theorem mem_rowSegments_iff {segment : RowSegment α} :
    segment ∈ layout.rowSegments ↔
      ∃ row < layout.height, layout.firstDark row < layout.width ∧ segment = layout.rowLine row := by
  have line (row : Nat) : layout.rowSegment? row = some segment ↔
      layout.firstDark row < layout.width ∧ segment = layout.rowLine row := by
    unfold rowSegment? rowLine firstDark
    by_cases starts : layout.startsAtEdge row = true
    · simp [starts, eq_comm]
    · simp [starts, eq_comm]
  unfold rowSegments
  simp only [List.mem_filterMap, List.mem_range, line]

/-- The lowest row has a line, because the last of its cells is dark. -/
theorem exists_mem_rowSegments (width : 0 < layout.width) (height : 0 < layout.height) :
    ∃ segment, segment ∈ layout.rowSegments := by
  have below : layout.height - 1 < layout.height := by omega
  obtain ⟨-, count, last⟩ := (isDark_iff below).mp (isDark_last width height)
  exact ⟨_, mem_rowSegments_iff.mpr ⟨layout.height - 1, below, by omega, rfl⟩⟩

theorem viewBox_eq [CharZero α] (layout : Layout α) :
    layout.viewBox.width = (layout.width + 1) * layout.cellSize ∧
      layout.viewBox.height = (layout.height + 1) * layout.cellSize := by
  have cells : (layout.width : α) + 1 ≠ 0 := Nat.cast_add_one_ne_zero layout.width
  simp only [viewBox, cellSize]
  push_cast
  constructor
  · field_simp
  · field_simp

end Layout

end Places

section Painting

variable {α : Type} [Field α] [LinearOrder α]

/-- The points of a square, given by its top left corner, without its right and its lower edge. -/
structure InSquare (corner : Point α) (size : α) (point : Point α) : Prop where
  left : corner.x ≤ point.x
  right : point.x < corner.x + size
  upper : corner.y ≤ point.y
  lower : point.y < corner.y + size

/-- The points that a line along a row paints.  It is as wide as its dashes are long, starts with a
dash, has gaps as long as the dashes, and ends where its length ends. -/
structure RowSegment.Paints (segment : RowSegment α) (dash : α) (point : Point α) : Prop where
  upper : segment.offset.y - dash / 2 ≤ point.y
  lower : point.y < segment.offset.y + dash / 2
  dashed : ∃ count : Nat,
    segment.offset.x + 2 * count * dash ≤ point.x ∧
      point.x < segment.offset.x + (2 * count + 1) * dash
  ended : point.x < segment.offset.x + segment.length

namespace Layout

/-- The points that the lines of all rows paint, relative to the board. -/
def Paints (layout : Layout α) (point : Point α) : Prop :=
  ∃ segment ∈ layout.rowSegments, segment.Paints layout.cellSize point

/-- The lines of a board paint a checkerboard. -/
structure PaintsCheckerboard (layout : Layout α) : Prop where
  /-- The painted points are the points of the dark squares. -/
  paints_iff : ∀ point, layout.Paints point ↔
    ∃ x y, layout.IsDark x y ∧ InSquare (layout.corner x y) layout.cellSize point
  /-- Of every cell either all points are painted or none. -/
  paints_iff_isDark : ∀ x < layout.width, ∀ y < layout.height, ∀ point,
    InSquare (layout.corner x y) layout.cellSize point → (layout.Paints point ↔ layout.IsDark x y)
  /-- Nothing is painted outside of the board. -/
  inside : ∀ point, layout.Paints point →
    (0 ≤ point.x ∧ point.x < layout.boardSize.width) ∧
      0 ≤ point.y ∧ point.y < layout.boardSize.height
  right_differs : ∀ x y, x + 1 < layout.width → y < layout.height →
    (layout.IsDark (x + 1) y ↔ ¬ layout.IsDark x y)
  below_differs : ∀ x y, x < layout.width → y + 1 < layout.height →
    (layout.IsDark x (y + 1) ↔ ¬ layout.IsDark x y)
  last_dark : layout.IsDark (layout.width - 1) (layout.height - 1)
  length_pos : ∀ segment ∈ layout.rowSegments, 0 < segment.length
  rowSegments_ne_nil : layout.rowSegments ≠ []
  /-- On the canvas the squares stand at the places of the cells. -/
  origin_add_corner : ∀ x y, layout.origin + layout.corner x y = layout.cellPosition x y
  /-- Half a cell is left free on all four sides of the board. -/
  margins : layout.origin.x = layout.cellSize / 2 ∧ layout.origin.y = layout.cellSize / 2 ∧
    layout.viewBox.width - (layout.origin.x + layout.boardSize.width) = layout.cellSize / 2 ∧
    layout.viewBox.height - (layout.origin.y + layout.boardSize.height) = layout.cellSize / 2

variable {layout : Layout α}

/-- The square of a cell, by the edges of its column and of its row. -/
theorem inSquare_corner_iff {x y : Nat} {point : Point α} :
    InSquare (layout.corner x y) layout.cellSize point ↔
      (x * layout.cellSize ≤ point.x ∧ point.x < (x + 1 : Nat) * layout.cellSize) ∧
        y * layout.cellSize ≤ point.y ∧ point.y < (y + 1 : Nat) * layout.cellSize := by
  have next (column : Nat) : ((column + 1 : Nat) : α) * layout.cellSize =
      column * layout.cellSize + layout.cellSize := by
    push_cast
    ring
  rw [next, next]
  constructor
  · rintro ⟨left, right, upper, lower⟩
    exact ⟨⟨left, right⟩, upper, lower⟩
  · rintro ⟨⟨left, right⟩, upper, lower⟩
    exact ⟨left, right, upper, lower⟩

variable [IsStrictOrderedRing α]

theorem cellSize_pos (canvas : 0 < layout.canvas) : 0 < layout.cellSize := by
  have cells : (0 : α) < ((layout.width + 1 : Nat) : α) := by exact_mod_cast Nat.succ_pos _
  exact div_pos canvas cells

/-- A point right of the left edge of one column and left of the left edge of another one. -/
theorem column_lt_of_between (canvas : 0 < layout.canvas) {left right : Nat} {coordinate : α}
    (behind : left * layout.cellSize ≤ coordinate)
    (before : coordinate < right * layout.cellSize) : left < right := by
  have ordered := behind.trans_lt before
  exact_mod_cast lt_of_mul_lt_mul_right ordered (cellSize_pos canvas).le

/-- The line along a row paints the dark squares of the row. -/
theorem rowLine_paints_iff (canvas : 0 < layout.canvas) {row : Nat} (inside : row < layout.height)
    (starts : layout.firstDark row < layout.width) {point : Point α} :
    (layout.rowLine row).Paints layout.cellSize point ↔
      ∃ x, layout.IsDark x row ∧ InSquare (layout.corner x row) layout.cellSize point := by
  have size := cellSize_pos canvas
  have column (count : Nat) : ((layout.firstDark row + 2 * count : Nat) : α) * layout.cellSize =
      layout.firstDark row * layout.cellSize + 2 * count * layout.cellSize := by
    push_cast
    ring
  have length : (layout.firstDark row : α) * layout.cellSize +
      (layout.width - layout.firstDark row : Nat) * layout.cellSize =
        layout.width * layout.cellSize := by
    rw [Nat.cast_sub starts.le]
    ring
  constructor
  · rintro ⟨upper, lower, ⟨count, left, right⟩, ended⟩
    simp only [rowLine] at upper lower left right ended
    rw [length] at ended
    rw [← column] at left
    refine ⟨layout.firstDark row + 2 * count, ?_, ?_⟩
    · exact (isDark_iff inside).mpr ⟨column_lt_of_between canvas left ended, count, rfl⟩
    · constructor <;> simp only [corner, column] at left ⊢ <;> linarith
  · rintro ⟨x, dark, left, right, upper, lower⟩
    obtain ⟨within, count, rfl⟩ := (isDark_iff inside).mp dark
    simp only [corner, column] at left right upper lower
    have end_le : ((layout.firstDark row + 2 * count : Nat) + 1 : α) * layout.cellSize ≤
        layout.width * layout.cellSize := by
      apply mul_le_mul_of_nonneg_right _ size.le
      exact_mod_cast within
    rw [add_mul, column, one_mul] at end_le
    constructor
    · simp only [rowLine]
      linarith
    · simp only [rowLine]
      linarith
    · refine ⟨count, ?_, ?_⟩ <;> simp only [rowLine] <;> linarith
    · simp only [rowLine, length]
      linarith

/-- What the lines of all rows paint are the dark squares. -/
theorem paints_iff_exists (canvas : 0 < layout.canvas) {point : Point α} :
    layout.Paints point ↔
      ∃ x y, layout.IsDark x y ∧ InSquare (layout.corner x y) layout.cellSize point := by
  constructor
  · rintro ⟨segment, member, paints⟩
    obtain ⟨row, inside, starts, rfl⟩ := mem_rowSegments_iff.mp member
    obtain ⟨x, dark, within⟩ := (rowLine_paints_iff canvas inside starts).mp paints
    exact ⟨x, row, dark, within⟩
  · rintro ⟨x, row, dark, within⟩
    have inside : row < layout.height := dark.2.1
    have starts : layout.firstDark row < layout.width := by
      obtain ⟨left, count, rfl⟩ := (isDark_iff inside).mp dark
      omega
    exact ⟨layout.rowLine row, mem_rowSegments_iff.mpr ⟨row, inside, starts, rfl⟩,
      (rowLine_paints_iff canvas inside starts).mpr ⟨x, dark, within⟩⟩

/-- The squares of different cells have no point in common. -/
theorem eq_of_inSquare (canvas : 0 < layout.canvas) {x y otherX otherY : Nat} {point : Point α}
    (within : InSquare (layout.corner x y) layout.cellSize point)
    (other : InSquare (layout.corner otherX otherY) layout.cellSize point) :
    x = otherX ∧ y = otherY := by
  obtain ⟨⟨left, right⟩, upper, lower⟩ := inSquare_corner_iff.mp within
  obtain ⟨⟨otherLeft, otherRight⟩, otherUpper, otherLower⟩ := inSquare_corner_iff.mp other
  have columns := column_lt_of_between canvas left otherRight
  have otherColumns := column_lt_of_between canvas otherLeft right
  have rows := column_lt_of_between canvas upper otherLower
  have otherRows := column_lt_of_between canvas otherUpper lower
  omega

theorem inside_of_inSquare (canvas : 0 < layout.canvas) {x y : Nat} {point : Point α}
    (left : x < layout.width) (above : y < layout.height)
    (within : InSquare (layout.corner x y) layout.cellSize point) :
    (0 ≤ point.x ∧ point.x < layout.boardSize.width) ∧
      0 ≤ point.y ∧ point.y < layout.boardSize.height := by
  have size := cellSize_pos canvas
  have upTo {cell cells : Nat} (below : cell < cells) :
      ((cell + 1 : Nat) : α) * layout.cellSize ≤ cells * layout.cellSize :=
    mul_le_mul_of_nonneg_right (by exact_mod_cast below) size.le
  have from0 (cell : Nat) : 0 ≤ (cell : α) * layout.cellSize :=
    mul_nonneg (Nat.cast_nonneg cell) size.le
  obtain ⟨⟨leftEdge, rightEdge⟩, upperEdge, lowerEdge⟩ := inSquare_corner_iff.mp within
  exact ⟨⟨(from0 x).trans leftEdge, rightEdge.trans_le (upTo left)⟩,
    (from0 y).trans upperEdge, lowerEdge.trans_le (upTo above)⟩

theorem length_pos_of_mem (canvas : 0 < layout.canvas) {segment : RowSegment α}
    (member : segment ∈ layout.rowSegments) : 0 < segment.length := by
  obtain ⟨row, -, starts, rfl⟩ := mem_rowSegments_iff.mp member
  have cells : (0 : α) < (layout.width - layout.firstDark row : Nat) := by
    exact_mod_cast Nat.sub_pos_of_lt starts
  exact mul_pos cells (cellSize_pos canvas)

/-- Computed without rounding, the lines of every board paint a checkerboard. -/
theorem paintsCheckerboard (width : 0 < layout.width) (height : 0 < layout.height)
    (canvas : 0 < layout.canvas) : layout.PaintsCheckerboard where
  paints_iff point := paints_iff_exists canvas
  paints_iff_isDark := by
    intro x left y above point within
    rw [paints_iff_exists canvas]
    constructor
    · rintro ⟨darkX, darkY, dark, darkWithin⟩
      obtain ⟨rfl, rfl⟩ := eq_of_inSquare canvas within darkWithin
      exact dark
    · exact fun dark => ⟨x, y, dark, within⟩
  inside := by
    intro point paints
    obtain ⟨x, y, ⟨left, above, -⟩, within⟩ := (paints_iff_exists canvas).mp paints
    exact inside_of_inSquare canvas left above within
  right_differs x y := isDark_right_iff
  below_differs x y := isDark_below_iff
  last_dark := isDark_last width height
  length_pos segment member := length_pos_of_mem canvas member
  rowSegments_ne_nil := by
    obtain ⟨segment, member⟩ := exists_mem_rowSegments width height
    exact List.ne_nil_of_mem member
  origin_add_corner x y := rfl
  margins := by
    obtain ⟨wide, high⟩ := viewBox_eq layout
    have half : layout.origin = { x := layout.cellSize / 2, y := layout.cellSize / 2 } := by
      simp [origin]
    rw [wide, high, half]
    refine ⟨rfl, rfl, ?_, ?_⟩ <;> simp only [boardSize, Size.scale] <;> ring

/-- A board one cell wide, of which every other row has no line. -/
theorem paintsCheckerboard_oneColumn :
    (({ width := 1, height := 4, canvas := 1000 } : Layout Rat).rowSegments.length = 2) ∧
      ({ width := 1, height := 4, canvas := 1000 } : Layout Rat).PaintsCheckerboard :=
  ⟨by decide +kernel, paintsCheckerboard (by decide) (by decide) (by norm_num)⟩

end Layout

end Painting

end ChessDiagram
