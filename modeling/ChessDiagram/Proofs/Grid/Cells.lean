import ChessDiagram.Grid
import Mathlib.Data.List.Basic

/-!
# The cells and the pieces of a grid

The cells of a grid are listed row by row, each with the place where it is found.  The pieces are
those of the cells whose text is the code of a piece up to ASCII case, in the same order.
-/

namespace ChessDiagram

namespace PieceKind

theorem ofLetter?_eq_some_iff {letter : Char} {kind : PieceKind} :
    ofLetter? letter = some kind ↔ Text.lowerChar letter = kind.letter := by
  unfold ofLetter?
  split <;> cases kind <;> simp_all [PieceKind.letter]

end PieceKind

namespace Side

theorem ofLetter?_eq_some_iff {letter : Char} {side : Side} :
    ofLetter? letter = some side ↔ Text.lowerChar letter = side.letter := by
  unfold ofLetter?
  split <;> cases side <;> simp_all [Side.letter]

end Side

namespace Piece

theorem ofCode?_eq_some_iff {text : Text} {piece : Piece} :
    ofCode? text = some piece ↔ Text.agrees text piece.code = true := by
  obtain ⟨kind, side⟩ := piece
  have kindLower : Text.lowerChar kind.letter = kind.letter := by cases kind <;> decide
  have sideLower : Text.lowerChar side.letter = side.letter := by cases side <;> decide
  have lowered : Text.lower (code { kind, side }) = [kind.letter, side.letter] := by
    simp [code, Text.lower, kindLower, sideLower]
  rw [Text.agrees, beq_iff_eq, lowered]
  cases text with
  | nil => simp [ofCode?, Text.lower]
  | cons kindLetter rest =>
      cases rest with
      | nil => simp [ofCode?, Text.lower]
      | cons sideLetter more =>
          cases more with
          | nil =>
              simp [ofCode?, Text.lower, Option.bind_eq_some_iff, PieceKind.ofLetter?_eq_some_iff,
                Side.ofLetter?_eq_some_iff]
          | cons third others => simp [ofCode?, Text.lower]

end Piece

namespace Grid

/-- The place of the first entry comes before that of the second one, row by row. -/
def RowMajor {α : Type} (first second : Nat × Nat × α) : Prop :=
  first.2.1 < second.2.1 ∨ first.2.1 = second.2.1 ∧ first.1 < second.1

theorem mem_cells_iff {grid : Grid} {x y : Nat} {cell : Text} :
    (x, y, cell) ∈ grid.cells ↔ grid.cell? x y = some cell := by
  simp [cells, cell?, List.mem_zipIdx_iff_getElem?, Option.bind_eq_some_iff]

theorem inside_of_cell? {grid : Grid} {x y : Nat} {cell : Text}
    (found : grid.cell? x y = some cell) : x < grid.width ∧ y < grid.height := by
  obtain ⟨row, rowFound, cellFound⟩ := Option.bind_eq_some_iff.mp found
  obtain ⟨below, rfl⟩ := List.getElem?_eq_some_iff.mp rowFound
  obtain ⟨left, -⟩ := List.getElem?_eq_some_iff.mp cellFound
  exact ⟨grid.row_length _ (List.getElem_mem below) ▸ left, below⟩

private theorem pairwise_zipIdx {α : Type} (list : List α) :
    list.zipIdx.Pairwise fun first second => first.2 < second.2 := by
  have indices : (list.zipIdx.map Prod.snd).Pairwise (· < ·) := by
    rw [List.zipIdx_map_snd]
    exact List.pairwise_lt_range'
  exact List.pairwise_map.mp indices

theorem cells_rowMajor (grid : Grid) : grid.cells.Pairwise RowMajor := by
  unfold cells
  rw [List.pairwise_flatMap]
  constructor
  · rintro ⟨row, y⟩ -
    rw [List.pairwise_map]
    exact (pairwise_zipIdx row).imp fun earlier => .inr ⟨rfl, earlier⟩
  · apply (pairwise_zipIdx grid.rows).imp
    rintro ⟨row, y⟩ ⟨laterRow, laterY⟩ above first firstMember second secondMember
    obtain ⟨firstCell, -, rfl⟩ := List.mem_map.mp firstMember
    obtain ⟨secondCell, -, rfl⟩ := List.mem_map.mp secondMember
    exact .inl above

theorem mem_pieces_iff {grid : Grid} {x y : Nat} {piece : Piece} :
    (x, y, piece) ∈ grid.pieces ↔
      ∃ cell, grid.cell? x y = some cell ∧ Text.agrees cell piece.code = true := by
  unfold pieces
  rw [List.mem_filterMap]
  constructor
  · rintro ⟨⟨cellX, cellY, cell⟩, member, found⟩
    obtain ⟨shown, read, same⟩ := Option.map_eq_some_iff.mp found
    obtain ⟨rfl, rfl, rfl⟩ := same
    exact ⟨cell, mem_cells_iff.mp member, Piece.ofCode?_eq_some_iff.mp read⟩
  · rintro ⟨cell, place, code⟩
    refine ⟨(x, y, cell), mem_cells_iff.mpr place, ?_⟩
    simp only [Piece.ofCode?_eq_some_iff.mpr code, Option.map_some]

theorem pieces_rowMajor (grid : Grid) : grid.pieces.Pairwise RowMajor := by
  apply grid.cells_rowMajor.filterMap
  rintro ⟨x, y, cell⟩ ⟨laterX, laterY, laterCell⟩ ordered shown found laterShown laterFound
  obtain ⟨piece, -, rfl⟩ := Option.map_eq_some_iff.mp found
  obtain ⟨laterPiece, -, rfl⟩ := Option.map_eq_some_iff.mp laterFound
  exact ordered

end Grid

end ChessDiagram
