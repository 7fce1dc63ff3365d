import ChessDiagram.Drawing.Board
import ChessDiagram.Proofs.Drawing.Layers
import ChessDiagram.Proofs.Grid.Cells
import Mathlib.Data.List.Nodup

/-!
# The pieces of a drawing

A drawing of a grid consists of the glyphs of all pieces, a light rectangle, the dark lines and one
reference to a glyph for each piece of the grid, in the order of the pieces.  Of the grid nothing
shows but its width, its height and its pieces.
-/

namespace ChessDiagram

namespace Markup

mutual

/-- The names under which the elements of a tree can be referred to. -/
def ids : Markup → List Text
  | .element _ attributes children =>
      (attributes.lookup ("id" : Text)).toList ++ childrenIds children
  | .inline _ attributes _ => (attributes.lookup ("id" : Text)).toList

def childrenIds : List Markup → List Text
  | [] => []
  | first :: rest => first.ids ++ childrenIds rest

end

theorem childrenIds_eq_flatMap (children : List Markup) :
    childrenIds children = children.flatMap ids := by
  induction children with
  | nil => rw [childrenIds, List.flatMap_nil]
  | cons first rest induction => rw [childrenIds, induction, List.flatMap_cons]

end Markup

namespace Piece

theorem mem_all (piece : Piece) : piece ∈ all := by
  obtain ⟨kind, side⟩ := piece
  cases kind <;> cases side <;> decide

theorem glyphName_nodup : (all.map glyphName).Nodup := by
  decide

/-- A glyph has the name of its piece, and nothing inside of it has a name. -/
theorem ids_glyph (piece : Piece) (scale : Binary32) :
    (piece.glyph scale).ids = [piece.glyphName] := by
  have paths : Markup.childrenIds
      (piece.kind.paths.map fun path => .node "path" [("d", path)] []) = [] := by
    rw [Markup.childrenIds_eq_flatMap, List.flatMap_map, List.flatMap_eq_nil_iff]
    exact fun path _ => rfl
  show [piece.glyphName] ++ (([] ++ Markup.childrenIds _) ++ []) = [piece.glyphName]
  rw [paths]
  rfl

end Piece

namespace Glyphs

theorem ids_definitions (cellSize : Binary32) :
    (definitions cellSize).ids = Piece.all.map Piece.glyphName := by
  show [] ++ Markup.childrenIds _ = _
  rw [List.nil_append, Markup.childrenIds_eq_flatMap, List.flatMap_map, List.map_eq_flatMap]
  simp only [Piece.ids_glyph]

theorem count_ids_definitions (cellSize : Binary32) (piece : Piece) :
    (definitions cellSize).ids.count piece.glyphName = 1 := by
  rw [ids_definitions]
  exact List.count_eq_one_of_mem Piece.glyphName_nodup
    (List.mem_map_of_mem (Piece.mem_all piece))

end Glyphs

namespace Board

open Layered

/-- The references that show pieces at their places, one after another. -/
def placements (layout : Layout Binary32) (pieces : List (Nat × Nat × Piece)) : List Markup :=
  pieces.map fun (x, y, piece) => placement piece (layout.cellPosition x y)

/-- Placing the pieces of a grid lays their references over the drawing. -/
theorem placePieces_eq_merge (layout : Layout Binary32) (grid : Grid) (drawing : Layered) :
    placePieces layout grid drawing =
      drawing.merge (oneLayer .pieces (placements layout grid.pieces)) := by
  unfold placePieces placements Grid.pieces
  induction grid.cells generalizing drawing with
  | nil => simp
  | cons first rest induction =>
      obtain ⟨x, y, cell⟩ := first
      rw [List.foldl_cons, induction]
      cases found : Piece.ofCode? cell with
      | none => simp [found]
      | some piece => simp [found, merge_assoc, oneLayer_cons]

theorem on_placePieces (layout : Layout Binary32) (grid : Grid) (drawing : Layered)
    (layer : Layer) :
    (placePieces layout grid drawing).on layer =
      drawing.on layer ++ if .pieces = layer then placements layout grid.pieces else [] := by
  rw [placePieces_eq_merge, on_merge, on_oneLayer]

theorem on_checkerboard (layout : Layout Binary32) (palette : Palette) (corner : Point Binary32)
    (layer : Layer) :
    (checkerboard layout palette corner).on layer =
      match layer with
      | .background => [background layout palette corner]
      | .squares => [squares layout palette corner]
      | .pieces => [] := by
  unfold checkerboard
  cases layer <;> simp

/-- The layers of a drawing of a grid: the light rectangle, the dark lines, and the pieces. -/
theorem render_placePieces (layout : Layout Binary32) (grid : Grid) (palette : Palette)
    (corner : Point Binary32) :
    (placePieces layout grid (checkerboard layout palette corner)).render =
      layerGroup .background [background layout palette corner] ::
      layerGroup .squares [squares layout palette corner] ::
      if grid.pieces = [] then [] else [layerGroup .pieces (placements layout grid.pieces)] := by
  have none_iff : placements layout grid.pieces = [] ↔ grid.pieces = [] := List.map_eq_nil_iff
  rw [render_eq_flatMap, Layer.all]
  simp [on_placePieces, on_checkerboard, none_iff]

theorem children_document (grid : Grid) (palette : Palette) (canvas : Binary32) :
    (document grid palette canvas).children =
      Glyphs.definitions (layoutOf grid canvas).cellSize ::
      layerGroup .background
        [background (layoutOf grid canvas) palette (layoutOf grid canvas).origin] ::
      layerGroup .squares [squares (layoutOf grid canvas) palette (layoutOf grid canvas).origin] ::
      if grid.pieces = [] then [] else
        [layerGroup .pieces (placements (layoutOf grid canvas) grid.pieces)] := by
  rw [← render_placePieces]
  rfl

/-- Grids of one size with the same pieces have the same drawing. -/
theorem document_congr {grid other : Grid} (width : other.width = grid.width)
    (height : other.height = grid.height) (pieces : other.pieces = grid.pieces)
    (palette : Palette) (canvas : Binary32) :
    document other palette canvas = document grid palette canvas := by
  have layout : layoutOf other canvas = layoutOf grid canvas := by
    rw [layoutOf, layoutOf, width, height]
  simp only [document, layout, placePieces_eq_merge, pieces]

/-- The element shows a piece at its place: it refers to the glyph of the piece, at the corner of
the cell. -/
structure ShowsPiece (layout : Layout Binary32) (place : Nat × Nat × Piece) (element : Markup) :
    Prop where
  name : element.name = "use"
  href : element.attribute? "href" = some ("#" ++ place.2.2.glyphName)
  left : element.attribute? "x" = some (layout.cellPosition place.1 place.2.1).x.text
  upper : element.attribute? "y" = some (layout.cellPosition place.1 place.2.1).y.text

theorem showsPiece_placements (layout : Layout Binary32) (pieces : List (Nat × Nat × Piece)) :
    List.Forall₂ (ShowsPiece layout) pieces (placements layout pieces) := by
  unfold placements
  rw [List.forall₂_map_right_iff, List.forall₂_same]
  rintro ⟨x, y, piece⟩ -
  exact ⟨rfl, rfl, rfl, rfl⟩

/-- What is drawn of a grid: all glyphs, one light rectangle, one path of dark lines, and, where the
grid has pieces, one reference to a glyph for each of them. -/
theorem children_of_draw? {grid : Grid} {palette : Palette} {canvas : Binary32} {drawing : Markup}
    (drawn : draw? grid palette canvas = some drawing) :
    (∃ definitions rectangle path placements,
      drawing.name = "svg" ∧
      drawing.children =
        definitions :: layerGroup .background [rectangle] :: layerGroup .squares [path] ::
          (if grid.pieces = [] then [] else [layerGroup .pieces placements]) ∧
      (definitions.name = "defs" ∧
        ∀ piece : Piece, definitions.ids.count piece.glyphName = 1) ∧
      (rectangle.name = "rect" ∧ rectangle.attribute? "fill" = some palette.light.text) ∧
      (path.name = "path" ∧ path.attribute? "stroke" = some palette.dark.text ∧
        path.attribute? "stroke-width" = some (layoutOf grid canvas).cellSize.text ∧
        path.attribute? "stroke-dasharray" = some (layoutOf grid canvas).cellSize.text) ∧
      List.Forall₂ (ShowsPiece (layoutOf grid canvas)) grid.pieces placements) ∧
    (∀ x y piece, (x, y, piece) ∈ grid.pieces ↔
      ∃ cell, grid.cell? x y = some cell ∧ Text.agrees cell piece.code = true) ∧
    grid.pieces.Pairwise Grid.RowMajor ∧
    ∀ other : Grid, other.width = grid.width → other.height = grid.height →
      other.pieces = grid.pieces → draw? other palette canvas = some drawing := by
  unfold draw? at drawn
  split at drawn
  case isFalse => cases drawn
  case isTrue positive =>
    obtain rfl := Option.some.inj drawn
    refine ⟨⟨_, _, _, _, rfl, children_document grid palette canvas, ⟨rfl, ?_⟩, ⟨rfl, rfl⟩,
      ⟨rfl, rfl, rfl, rfl⟩, showsPiece_placements _ _⟩, ?_, grid.pieces_rowMajor, ?_⟩
    · exact Glyphs.count_ids_definitions _
    · intro x y piece
      exact Grid.mem_pieces_iff
    · intro other width height pieces
      rw [draw?, if_pos positive, document_congr width height pieces]

/-- A king and a pawn in two spellings, among cells that hold other texts or none. -/
theorem children_of_draw?_spellings :
    ∃ drawing placements,
      draw? (Grid.ofRows [["Kl", "__"], ["x", "pD"]]) (.ofTheme .base) (.ofNat 1000) =
          some drawing ∧
        drawing.children.getLast? = some (layerGroup .pieces placements) ∧
        placements.length = 2 ∧
        draw? (Grid.ofRows [["kL", ""], ["", "pd"]]) (.ofTheme .base) (.ofNat 1000) =
          some drawing := by
  have drawn : draw? (Grid.ofRows [["Kl", "__"], ["x", "pD"]]) (.ofTheme .base) (.ofNat 1000) =
      some (document (Grid.ofRows [["Kl", "__"], ["x", "pD"]]) (.ofTheme .base) (.ofNat 1000)) :=
    if_pos (by decide +kernel)
  obtain ⟨⟨definitions, rectangle, path, placements, -, children, -, -, -, shown⟩, -, -, same⟩ :=
    children_of_draw? drawn
  have two : (Grid.ofRows [["Kl", "__"], ["x", "pD"]]).pieces.length = 2 := by decide +kernel
  refine ⟨_, placements, drawn, ?_, shown.length_eq.symm.trans two, ?_⟩
  · rw [children]
    rfl
  · exact same _ (by decide +kernel) (by decide +kernel) (by decide +kernel)

end Board

end ChessDiagram
