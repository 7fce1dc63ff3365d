import ChessDiagram.Drawing.Board
import ChessDiagram.Proofs.Layout.Extents
import ChessDiagram.Proofs.Number.ScaledBack

/-!
# Square boards

The drawn area of a square board is as wide as the canvas.  Its height is the canvas times the rows,
with one more for the margin, over the same number of columns.  Both steps are rounded, so that the
height may be the number above or below the canvas, and infinite where the product is; it is the
canvas exactly when the product is rounded by less than half of a last place of the canvas for every
row.
-/

namespace ChessDiagram

namespace Floating

/-- A count that is a finite number is a whole one, if rounded. -/
theorem exists_whole_of_value?_cast {count : Nat} {value : Rat}
    (known : (count : Binary32).value? = some value) : ∃ whole : Nat, value = whole := by
  obtain ⟨whole, rounds⟩ := Format.binary32.exists_rounded_natCast count
  refine ⟨whole, ?_⟩
  have rounded := value?_round (Nat.cast_nonneg count) (isFinite_of_value? known)
  exact (Option.some.inj (known.symm.trans rounded)).trans rounds

end Floating

namespace Board

open Floating

/-- The view box of a drawing of a square board: the canvas, and a height that is a neighbour of it
or the canvas itself, while the product of the canvas and the rows is finite. -/
structure SquareViewBox (grid : Grid) (canvas : Binary32) (drawing : Markup) : Prop where
  written : drawing.attribute? "viewBox" =
    some ("0 0 " ++ canvas.text ++ " " ++ (layoutOf grid canvas).viewBox.height.text)
  infinite : (canvas * ((grid.height + 1 : Nat) : Binary32)).isFinite = false →
    (layoutOf grid canvas).viewBox.height = .infinite false
  near : (canvas * ((grid.height + 1 : Nat) : Binary32)).isFinite = true →
    ∃ size height, canvas.value? = some size ∧
      (layoutOf grid canvas).viewBox.height.value? = some height ∧
      |height - size| ≤ Format.binary32.lastPlace size
  square_iff : (canvas * ((grid.height + 1 : Nat) : Binary32)).isFinite = true →
    ∃ (size : Rat) (rows : Nat), canvas.value? = some size ∧
      ((grid.height + 1 : Nat) : Binary32).value? = some (rows : Rat) ∧
      ((layoutOf grid canvas).viewBox.height = canvas ↔
        2 * Format.binary32.productError size rows < rows * Format.binary32.lastPlace size)

theorem squareViewBox_of_draw? {grid : Grid} {palette : Palette} {canvas : Binary32}
    {drawing : Markup} (drawn : draw? grid palette canvas = some drawing)
    (square : grid.width = grid.height) (word : grid.width < Nat.pow 2 64) :
    SquareViewBox grid canvas drawing := by
  unfold draw? at drawn
  split at drawn
  case isFalse => cases drawn
  case isTrue positive =>
    obtain rfl := Option.some.inj drawn
    have accepted : (layoutOf grid canvas).canvas.isPositive = true := positive
    have rows : 0 < (layoutOf grid canvas).height := List.length_pos_iff.mpr grid.rows_ne_nil
    obtain ⟨size, columns, margins, measured⟩ :=
      Layout.exists_measured accepted grid.width_pos rows word (square.symm.trans_lt word)
    obtain ⟨whole, rfl⟩ := exists_whole_of_value?_cast measured.rows_known
    have canvas_known : canvas.value? = some size := measured.canvas_known
    have rows_known : ((grid.height + 1 : Nat) : Binary32).value? = some (whole : Rat) :=
      measured.rows_known
    have scaling := scaling_of_value? canvas_known measured.canvas_pos rows_known
      (Nat.cast_pos.mp measured.rows_pos)
    have height : (layoutOf grid canvas).viewBox.height =
        canvas * ((grid.height + 1 : Nat) : Binary32) / ((grid.height + 1 : Nat) : Binary32) := by
      show canvas * _ / ((grid.width + 1 : Nat) : Binary32) = _
      rw [square]
      rfl
    refine ⟨rfl, ?infinite, ?near, ?square_iff⟩
    case infinite =>
      intro overflow
      rw [height, mul_div_of_overflow scaling canvas_known rows_known overflow]
    case near =>
      intro finite
      refine ⟨size, _, canvas_known, ?_, scaling.abs_rounded_scaledBack_sub_le⟩
      rw [height, value?_mul_div scaling canvas_known rows_known finite]
    case square_iff =>
      intro finite
      refine ⟨size, whole, canvas_known, rows_known, ?_⟩
      rw [height, mul_div_eq_iff scaling canvas_known rows_known finite]

/-- The board of eight by eight squares without pieces. -/
def emptyEight : Grid :=
  .ofRows (List.replicate 8 (List.replicate 8 []))

/-- On a canvas of a thousand the height of the board is the canvas. -/
theorem squareViewBox_thousand :
    ∃ drawing, draw? emptyEight (.ofTheme .base) (.ofNat 1000) = some drawing ∧
      SquareViewBox emptyEight (.ofNat 1000) drawing ∧
      drawing.attribute? "viewBox" = some "0 0 1000 1000" := by
  have drawn : draw? emptyEight (.ofTheme .base) (.ofNat 1000) =
      some (document emptyEight (.ofTheme .base) (.ofNat 1000)) := if_pos (by decide +kernel)
  have box := squareViewBox_of_draw? drawn (by decide +kernel) (by decide +kernel)
  refine ⟨_, drawn, box, ?_⟩
  rw [box.written]
  decide +kernel

/-- On a canvas of a thousand and one tenth the height is the number below the canvas. -/
theorem not_square_viewBox :
    emptyEight.width = emptyEight.height ∧
    ∃ drawing, draw? emptyEight (.ofTheme .base) (.ofDecimal false 10001 (-1)) = some drawing ∧
      drawing.attribute? "viewBox" = some "0 0 1000.1 1000.0999" := by
  refine ⟨?_, _, if_pos ?_, ?_⟩
  · decide +kernel
  · decide +kernel
  · decide +kernel

end Board

end ChessDiagram
