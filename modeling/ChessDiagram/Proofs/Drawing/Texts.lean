import ChessDiagram.Fragment
import ChessDiagram.Proofs.Drawing.PathData
import ChessDiagram.Proofs.Drawing.Pieces
import ChessDiagram.Proofs.Markup.Texts

/-!
# The texts of drawings and fragments

The names and keys of a drawing are the same in every drawing, and so are some of its values.  The
other values are written from the names and paths of the glyphs, from the tones and from numbers.  A
fragment adds its styles and the free texts of the settings.
-/

namespace ChessDiagram

open Markup

variable {named valued : Text → Prop}

/-- The names of elements and the keys of attributes in drawings. -/
def fixedNames : List String :=
  ["svg", "defs", "g", "path", "rect", "use", "xmlns", "width", "height", "viewBox", "id",
    "transform", "fill", "fill-rule", "d", "data-layer", "x", "y", "href", "stroke",
    "stroke-opacity", "stroke-width", "stroke-linecap", "stroke-linejoin", "stroke-dasharray"]

/-- The values that are the same in every drawing. -/
def fixedValues : List String :=
  ["http://www.w3.org/2000/svg", "100%", "none", "evenodd", "white", "black", "1", "1.5", "butt",
    "round", "miter", "background", "squares", "pieces"]

section Names

variable (names : ∀ name ∈ fixedNames, named name.toList)
include names

theorem Board.textsHave_background {layout : Layout Binary32} {palette : Palette}
    {corner : Point Binary32} (light : valued palette.light.text)
    (left : valued corner.x.text) (upper : valued corner.y.text)
    (width : valued layout.boardSize.width.text) (height : valued layout.boardSize.height.text) :
    (background layout palette corner).TextsHave named valued := by
  simp only [fixedNames, List.forall_mem_cons] at names
  apply TextsHave.node (by simp only [names]) _ (by simp)
  simp only [pairsHave_cons, pairsHave_nil, names, left, upper, width, height, light, and_self]

theorem Board.textsHave_placements {layout : Layout Binary32} {pieces : List (Nat × Nat × Piece)}
    (references : ∀ piece : Piece, valued ("#" ++ piece.glyphName))
    (places : ∀ place ∈ pieces, valued (layout.cellPosition place.1 place.2.1).x.text ∧
      valued (layout.cellPosition place.1 place.2.1).y.text) :
    ∀ element ∈ placements layout pieces, element.TextsHave named valued := by
  simp only [fixedNames, List.forall_mem_cons] at names
  intro element member
  obtain ⟨place, listed, rfl⟩ := List.mem_map.mp member
  apply TextsHave.node (by simp only [names]) _ (by simp)
  simp only [pairsHave_cons, pairsHave_nil, names, references, places place listed, and_self]

end Names

section Values

variable (names : ∀ name ∈ fixedNames, named name.toList)
  (values : ∀ value ∈ fixedValues, valued value.toList)
include names values

theorem Stroke.pairsHave_attributes {stroke : Stroke} (color : valued stroke.color.text)
    (alpha : valued stroke.color.alpha.text) (width : valued stroke.width.text)
    (dash : ∀ dash ∈ stroke.dash, valued dash.text) :
    PairsHave named valued stroke.attributes := by
  simp only [fixedNames, List.forall_mem_cons] at names
  simp only [fixedValues, List.forall_mem_cons] at values
  have cap : valued stroke.cap.name := by
    cases stroke.cap <;> simp only [StrokeCap.name, values]
  have join : valued stroke.join.name := by
    cases stroke.join <;> simp only [StrokeJoin.name, values]
  unfold Stroke.attributes Stroke.dashText?
  apply pairsHave_append.mpr
  constructor
  · simp only [pairsHave_cons, pairsHave_nil, names, color, alpha, width, cap, join, and_self]
  · cases found : stroke.dash with
    | none => exact pairsHave_nil
    | some length =>
        simp only [Option.map_some, pairsHave_cons, pairsHave_nil, names, dash length found,
          and_self]

theorem Piece.textsHave_glyph (piece : Piece) {scale : Binary32}
    (glyphName : valued piece.glyphName) (paths : ∀ path ∈ piece.kind.paths, valued path)
    (transform : valued ("scale(" ++ scale.text ++ ")")) :
    (piece.glyph scale).TextsHave named valued := by
  have stroke : PairsHave named valued
      (Stroke.solid piece.side.outline ((3 : Nat) / (2 : Nat))).rounded.attributes := by
    have width : ((3 : Nat) / (2 : Nat) : Binary32).text = "1.5" := by decide +kernel
    have alpha : piece.side.outline.alpha.text = "1" := by
      cases piece.side <;> decide +kernel
    apply Stroke.pairsHave_attributes names values
    · cases piece.side with
      | light => exact values "black" (by decide)
      | dark => exact values "white" (by decide)
    · exact alpha ▸ values "1" (by decide)
    · exact width ▸ values "1.5" (by decide)
    · rintro dash ⟨⟩
  have fill : valued piece.side.fill.text := by
    cases piece.side with
    | light => exact values "white" (by decide)
    | dark => exact values "black" (by decide)
  simp only [fixedNames, List.forall_mem_cons] at names
  simp only [fixedValues, List.forall_mem_cons] at values
  apply TextsHave.node (by simp only [names])
  · simp only [pairsHave_cons, pairsHave_nil, names, glyphName, and_self]
  · intro shape member
    rw [List.mem_singleton.mp member]
    apply TextsHave.node (by simp only [names])
    · simp only [pairsHave_append, pairsHave_cons, pairsHave_nil, names, values, transform, fill,
        stroke, and_self]
    · intro path pathMember
      obtain ⟨data, listed, rfl⟩ := List.mem_map.mp pathMember
      apply TextsHave.node (by simp only [names]) _ (by simp)
      simp only [pairsHave_cons, pairsHave_nil, names, paths data listed, and_self]

theorem Glyphs.textsHave_definitions {cellSize : Binary32}
    (glyphName : ∀ piece : Piece, valued piece.glyphName)
    (paths : ∀ kind : PieceKind, ∀ path ∈ kind.paths, valued path)
    (transform : valued ("scale(" ++ (scale cellSize).text ++ ")")) :
    (definitions cellSize).TextsHave named valued := by
  apply TextsHave.node (names "defs" (by decide)) pairsHave_nil
  intro child member
  obtain ⟨piece, -, rfl⟩ := List.mem_map.mp member
  exact piece.textsHave_glyph names values (glyphName piece) (paths piece.kind) transform

theorem Board.textsHave_squares {layout : Layout Binary32} {palette : Palette}
    {corner : Point Binary32} (dark : valued palette.dark.text)
    (alpha : valued palette.dark.alpha.text) (cellSize : valued layout.cellSize.text)
    (path : valued (pathText (squaresPath layout corner))) :
    (squares layout palette corner).TextsHave named valued := by
  have stroke : PairsHave named valued
      (Stroke.dashed palette.dark layout.cellSize).attributes := by
    apply Stroke.pairsHave_attributes names values dark alpha cellSize
    rintro dash ⟨⟩
    exact cellSize
  simp only [fixedNames, List.forall_mem_cons] at names
  simp only [fixedValues, List.forall_mem_cons] at values
  apply TextsHave.node (by simp only [names]) _ (by simp)
  simp only [pairsHave_append, pairsHave_cons, pairsHave_nil, names, values, path, stroke,
    and_self]

theorem Layered.textsHave_layerGroup {layer : Layer} {elements : List Markup}
    (elementsHave : ∀ element ∈ elements, element.TextsHave named valued) :
    (layerGroup layer elements).TextsHave named valued := by
  simp only [fixedNames, List.forall_mem_cons] at names
  simp only [fixedValues, List.forall_mem_cons] at values
  have name : valued layer.name := by
    unfold Layer.name
    split <;> simp only [values]
  apply TextsHave.node (by simp only [names]) _ elementsHave
  simp only [pairsHave_cons, pairsHave_nil, names, name, and_self]

end Values

namespace Board

/-- The numbers that a drawing is written with: the extents of the drawn area, the corner and the
size of the board, the size of a cell, the scale of the glyphs, the path of the dark lines, and the
places of the pieces. -/
def numbers (grid : Grid) (canvas : Binary32) : List Binary32 :=
  let layout := layoutOf grid canvas
  [layout.viewBox.width, layout.viewBox.height, layout.origin.x, layout.origin.y,
    layout.boardSize.width, layout.boardSize.height, layout.cellSize,
    Glyphs.scale layout.cellSize] ++
  (squaresPath layout layout.origin).flatMap PathCommand.numbers ++
  grid.pieces.flatMap fun (x, y, _) =>
    [(layout.cellPosition x y).x, (layout.cellPosition x y).y]

/-- The values in a drawing have a property. -/
structure ValuesHave (valued : Text → Prop) (grid : Grid) (palette : Palette)
    (canvas : Binary32) : Prop where
  fixed : ∀ value ∈ fixedValues, valued value.toList
  glyphName : ∀ piece : Piece, valued piece.glyphName ∧ valued ("#" ++ piece.glyphName)
  glyphPath : ∀ kind : PieceKind, ∀ path ∈ kind.paths, valued path
  light : valued palette.light.text
  dark : valued palette.dark.text
  alpha : valued palette.dark.alpha.text
  number : ∀ number ∈ numbers grid canvas, valued number.text
  path : valued (pathText (squaresPath (layoutOf grid canvas) (layoutOf grid canvas).origin))
  viewBox : valued ("0 0 " ++ (layoutOf grid canvas).viewBox.width.text ++ " " ++
    (layoutOf grid canvas).viewBox.height.text)
  transform : valued ("scale(" ++ (Glyphs.scale (layoutOf grid canvas).cellSize).text ++ ")")

variable {grid : Grid} {palette : Palette} {canvas : Binary32}

/-- All texts of a drawing have a property when its names and its values have it. -/
theorem textsHave_document (names : ∀ name ∈ fixedNames, named name.toList)
    (values : ValuesHave valued grid palette canvas) :
    (document grid palette canvas).TextsHave named valued := by
  obtain ⟨fixed, glyphName, glyphPath, light, dark, alpha, number, path, viewBox, transform⟩ :=
    values
  simp only [numbers, List.forall_mem_append, List.forall_mem_cons, List.forall_mem_flatMap,
    List.not_mem_nil, false_imp_iff, implies_true, and_true] at number
  obtain ⟨⟨⟨-, -, left, upper, width, height, cellSize, -⟩, -⟩, places⟩ := number
  have children : ∀ child ∈ (document grid palette canvas).children,
      child.TextsHave named valued := by
    rw [children_document]
    simp only [List.forall_mem_cons]
    refine ⟨?_, Layered.textsHave_layerGroup names fixed ?_,
      Layered.textsHave_layerGroup names fixed ?_, ?_⟩
    · exact Glyphs.textsHave_definitions names fixed (fun piece => (glyphName piece).1) glyphPath
        transform
    · rw [List.forall_mem_singleton]
      exact textsHave_background names light left upper width height
    · rw [List.forall_mem_singleton]
      exact textsHave_squares names fixed dark alpha cellSize path
    · split
      · simp
      · rw [List.forall_mem_singleton]
        apply Layered.textsHave_layerGroup names fixed
        exact textsHave_placements names (fun piece => (glyphName piece).2) places
  simp only [fixedNames, List.forall_mem_cons] at names
  simp only [fixedValues, List.forall_mem_cons] at fixed
  apply TextsHave.node (by simp only [names]) _ children
  simp only [pairsHave_cons, pairsHave_nil, names, fixed, viewBox, and_self]

end Board

namespace Fragment

theorem textsHave_assemble {settings : Settings} {escape : Bool} {board : Markup}
    (names : ∀ name ∈ ["div", "h3", "p", "class", "style"], named name.toList)
    (styles : ∀ style ∈ [wrapperClass, wrapperStyle, frameStyle settings.size settings.align,
      titleStyle], valued style)
    (title : named (freeText escape (Text.capitalizeWords settings.title)))
    (moves : named (freeText escape settings.moves))
    (notes : named (freeText escape settings.notes)) (boardHas : board.TextsHave named valued) :
    (assemble settings escape board).TextsHave named valued := by
  simp only [List.forall_mem_cons] at names styles
  apply TextsHave.node (by simp only [names])
  · simp only [pairsHave_cons, pairsHave_nil, names, styles, and_self]
  · rw [List.forall_mem_singleton]
    apply TextsHave.node (by simp only [names])
    · simp only [pairsHave_cons, pairsHave_nil, names, styles, and_self]
    · simp only [List.forall_mem_cons]
      refine ⟨.inline ?_ ?_ title, boardHas, .inline ?_ pairsHave_nil moves,
        .inline ?_ pairsHave_nil notes, ?_⟩
      · simp only [names]
      · simp only [pairsHave_cons, pairsHave_nil, names, styles, and_self]
      · simp only [names]
      · simp only [names]
      · simp

end Fragment

end ChessDiagram
