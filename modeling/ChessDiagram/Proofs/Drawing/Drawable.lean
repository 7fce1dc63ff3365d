import ChessDiagram.Proofs.Color.Alpha
import ChessDiagram.Proofs.Drawing.Texts
import ChessDiagram.Proofs.Layout.Extents
import ChessDiagram.Proofs.Markup.Words

/-!
# Drawings of finite numbers

A board is drawn with finite numbers whenever its canvas times its rows is one: no place on it lies
further out than the range of the format, and cells of no size are placed at zero.  The words for
infinities and for what is not a number then stand in the drawing only where a colour has them.
-/

namespace ChessDiagram

open Markup

/-- The words that numbers without a finite value are written with. -/
def nonfiniteWords : List Text :=
  ["inf", "NaN"]

section Texts

variable {word : Text}

theorem isWord_of_nonfinite (nonfinite : word ∈ nonfiniteWords) : IsWord word := by
  have words : ∀ word ∈ nonfiniteWords, word ≠ [] ∧ word.all Text.isLetter = true ∧
      ∀ name ∈ ["amp", "lt", "gt", "quot", "apos"], Text.Omits word name.toList := by
    decide
  obtain ⟨nonempty, letters, unspelled⟩ := words word nonfinite
  refine ⟨nonempty, ?_, unspelled⟩
  intro character mark member
  have letter := List.all_eq_true.mp letters character member
  have marks : (['<', '>', '/', '=', '"', ' ', '\n', '&', ';'] : Text).all
      (fun mark => !Text.isLetter mark) = true := by decide
  have noLetter := List.all_eq_true.mp marks character mark
  rw [letter] at noLetter
  cases noLetter

/-- A text without the letters that tell these words from numbers. -/
theorem omits_of_letters (nonfinite : word ∈ nonfiniteWords) {text : Text}
    (without : 'f' ∉ text ∧ 'N' ∉ text) : Text.Omits word text := by
  have letter : 'f' ∈ word ∨ 'N' ∈ word := by
    have words : ∀ word ∈ nonfiniteWords, 'f' ∈ word ∨ 'N' ∈ word := by decide
    exact words word nonfinite
  rcases letter with member | member
  · exact Text.omits_of_notMem member without.1
  · exact Text.omits_of_notMem member without.2

theorem letters_of_isFinite {number : Binary32} (finite : number.isFinite = true) :
    'f' ∉ number.text ∧ 'N' ∉ number.text := by
  have numeric := Floating.isNumeric_of_mem_text finite
  constructor <;> intro member <;> exact absurd (numeric _ member) (by decide)

theorem omits_text (nonfinite : word ∈ nonfiniteWords) {number : Binary32}
    (finite : number.isFinite = true) : Text.Omits word number.text :=
  omits_of_letters nonfinite (letters_of_isFinite finite)

theorem omits_path (nonfinite : word ∈ nonfiniteWords) {data : Text}
    (path : ∀ character ∈ data, isPathChar character = true) : Text.Omits word data := by
  apply omits_of_letters nonfinite
  constructor <;> intro member <;> exact absurd (path _ member) (by decide)

theorem Piece.omits_glyphName (nonfinite : word ∈ nonfiniteWords) (piece : Piece) :
    Text.Omits word piece.glyphName ∧ Text.Omits word ("#" ++ piece.glyphName) := by
  have all : ∀ word ∈ nonfiniteWords, ∀ piece ∈ Piece.all,
      Text.Omits word piece.glyphName ∧ Text.Omits word ("#" ++ piece.glyphName) := by
    decide
  exact all word nonfinite piece piece.mem_all

end Texts

namespace Board

section Drawing

variable {word : Text} {palette : Palette} {grid : Grid} {canvas : Binary32}

/-- A drawing of finite numbers has no word for any other number, unless a tone has it. -/
theorem omits_document (nonfinite : word ∈ nonfiniteWords)
    (finite : ∀ number ∈ numbers grid canvas, number.isFinite = true)
    (light : Text.Omits word palette.light.text) (dark : Text.Omits word palette.dark.text)
    (alpha : palette.dark.alpha.isFinite = true) :
    (document grid palette canvas).Omits word := by
  have fixed : ∀ word ∈ nonfiniteWords,
      (∀ name ∈ fixedNames, Text.Omits word name.toList) ∧
        ∀ value ∈ fixedValues, Text.Omits word value.toList := by
    decide
  apply textsHave_document (fixed word nonfinite).1
  have written := finite
  simp only [numbers, List.forall_mem_append, List.forall_mem_cons, List.forall_mem_flatMap,
    List.not_mem_nil, false_imp_iff, implies_true, and_true] at written
  obtain ⟨⟨⟨width, height, -, -, -, -, -, scale⟩, path⟩, -⟩ := written
  exact {
    fixed := (fixed word nonfinite).2
    glyphName := Piece.omits_glyphName nonfinite
    glyphPath := fun kind data listed =>
      omits_path nonfinite (kind.isPathChar_of_mem_paths data listed)
    light := light
    dark := dark
    alpha := omits_text nonfinite alpha
    number := fun number listed => omits_text nonfinite (finite number listed)
    path := omits_path nonfinite (isPathChar_of_mem_pathText path)
    viewBox := by
      apply omits_of_letters nonfinite
      simp [letters_of_isFinite width, letters_of_isFinite height]
    transform := by
      apply omits_of_letters nonfinite
      simp [letters_of_isFinite scale] }

open Layout in
/-- On a canvas whose product with the rows is finite, every number is. -/
theorem isFinite_of_mem_numbers {size columns rows : Rat}
    (measured : (layoutOf grid canvas).Measured size columns rows)
    (finite : (canvas * ((grid.height + 1 : Nat) : Binary32)).isFinite = true) :
    ∀ number ∈ numbers grid canvas, number.isFinite = true := by
  have inRange := measured.product_le finite
  have half := (measured.upTo_half inRange).isFinite
  have cellSize := measured.upTo_cellSize inRange
  have scale : (Glyphs.scale (layoutOf grid canvas).cellSize).UpTo 19 := by
    obtain ⟨divisor, known, near, -⟩ :=
      Floating.exists_value?_cast (show Glyphs.designSize ≤ Nat.pow 2 64 by decide)
    have design : ((Glyphs.designSize : Nat) : Rat) = 45 := by norm_num [Glyphs.designSize]
    rw [design] at near
    apply cellSize.div known
    · linarith
    · push_cast
      linarith
    · omega
  obtain ⟨boardWidth, boardHeight⟩ := measured.upTo_boardSize inRange
  simp only [numbers, List.forall_mem_append, List.forall_mem_cons, List.forall_mem_flatMap,
    List.not_mem_nil, false_imp_iff, implies_true, and_true]
  refine ⟨⟨⟨Floating.isFinite_of_value? measured.canvas_known,
    (measured.upTo_viewBox_height finite).isFinite, half, half, boardWidth.isFinite,
    boardHeight.isFinite, cellSize.isFinite, scale.isFinite⟩, ?_⟩, ?_⟩
  · intro command member
    obtain ⟨segment, listed, inSegment⟩ := List.mem_flatMap.mp member
    obtain ⟨start, line, length⟩ := measured.upTo_of_mem_rowSegments inRange listed
    simp only [List.mem_cons, List.not_mem_nil, or_false] at inSegment
    rcases inSegment with rfl | rfl
    · simp only [PathCommand.numbers, List.forall_mem_cons, List.not_mem_nil, false_imp_iff,
        implies_true, and_true]
      exact ⟨start.isFinite, line.isFinite⟩
    · simp only [PathCommand.numbers, List.forall_mem_singleton]
      exact length.isFinite
  · rintro ⟨x, y, piece⟩ member
    obtain ⟨cell, found, -⟩ := Grid.mem_pieces_iff.mp member
    obtain ⟨left, upper⟩ := Grid.inside_of_cell? found
    obtain ⟨across, down⟩ := measured.upTo_cellPosition inRange left upper
    exact ⟨across.isFinite, down.isFinite⟩

end Drawing

/-- What is sure of a drawing on a canvas, and what is sure once the canvas times the rows, each
rounded, is finite. -/
structure Drawable (grid : Grid) (palette : Palette) (canvas : Binary32) (drawing : Markup) :
    Prop where
  cellSize_finite : (layoutOf grid canvas).cellSize.isFinite = true
  /-- A cell has a size unless the canvas over the columns is at most half of the least number. -/
  cellSize_positive : ∃ size columns, canvas.value? = some size ∧
    ((grid.width + 1 : Nat) : Binary32).value? = some columns ∧
    ((layoutOf grid canvas).cellSize.isPositive = true ↔
      Format.binary32.halfLeast < size / columns)
  viewBox_width : (layoutOf grid canvas).viewBox.width = canvas ∧ canvas.isPositive = true
  viewBox_height : (canvas * ((grid.height + 1 : Nat) : Binary32)).isFinite = true →
    (layoutOf grid canvas).viewBox.height.isFinite = true ∧
      ((layoutOf grid canvas).cellSize.isPositive = true →
        (layoutOf grid canvas).viewBox.height.isPositive = true)
  numbers_finite : (canvas * ((grid.height + 1 : Nat) : Binary32)).isFinite = true →
    ∀ number ∈ numbers grid canvas, number.isFinite = true
  /-- Words for numbers that are not finite come from the tones alone. -/
  words : (canvas * ((grid.height + 1 : Nat) : Binary32)).isFinite = true →
    ∀ word ∈ nonfiniteWords, word <:+: drawing.text →
      word <:+: palette.light.text ∨ word <:+: palette.dark.text

/-- Every drawing of a grid whose sides are machine words, in tones of which the dark one was
read. -/
theorem drawable_of_draw? {grid : Grid} {palette : Palette} {canvas : Binary32} {drawing : Markup}
    (drawn : draw? grid palette canvas = some drawing) (width : grid.width < Nat.pow 2 64)
    (height : grid.height < Nat.pow 2 64)
    (dark : ∃ source, Color.ofText source = .ok palette.dark) :
    Drawable grid palette canvas drawing := by
  unfold draw? at drawn
  split at drawn
  case isFalse => cases drawn
  case isTrue positive =>
    obtain rfl := Option.some.inj drawn
    obtain ⟨source, read⟩ := dark
    have accepted : (layoutOf grid canvas).canvas.isPositive = true := positive
    have rows : 0 < (layoutOf grid canvas).height := List.length_pos_iff.mpr grid.rows_ne_nil
    obtain ⟨size, columns, margins, measured⟩ :=
      Layout.exists_measured accepted grid.width_pos rows width height
    exact {
      cellSize_finite := Floating.isFinite_of_value? measured.value?_cellSize
      cellSize_positive :=
        ⟨size, columns, measured.canvas_known, measured.columns_known,
          measured.isPositive_cellSize_iff⟩
      viewBox_width := ⟨rfl, positive⟩
      viewBox_height := fun finite =>
        ⟨(measured.upTo_viewBox_height finite).isFinite,
          measured.isPositive_viewBox_height finite⟩
      numbers_finite := isFinite_of_mem_numbers measured
      words := by
        intro finite word nonfinite within
        by_contra elsewhere
        obtain ⟨light, dark⟩ := not_or.mp elsewhere
        have omits := omits_document nonfinite (isFinite_of_mem_numbers measured finite) light dark
          (Color.isFinite_alpha_of_ofText read)
        exact omits.text (isWord_of_nonfinite nonfinite) within }

/-- The dark tone of every theme can be read. -/
theorem exists_ofText_ofTheme (theme : Theme) :
    ∃ source, Color.ofText source = .ok (Palette.ofTheme theme).dark := by
  cases theme with
  | base => exact ⟨"olivedrab", by decide +kernel⟩
  | dark => exact ⟨"#4a4a4a", by decide +kernel⟩
  | light => exact ⟨"#b58863", by decide +kernel⟩

/-- Three pieces, and a cell that is none, on four columns and three rows. -/
def threePieces : Grid :=
  .ofRows [["kd", "", "xx"], ["", "pl"], ["", "", "", "rl"]]

/-- A canvas of 100.1, which the format has to round. -/
def roundedCanvas : Binary32 :=
  .ofDecimal false 1001 (-1)

/-- A king, a pawn and a rook, and three dark lines of which the last starts a last place off. -/
theorem drawable_of_draw?_threePieces :
    ∃ drawing, draw? threePieces (.ofTheme .dark) roundedCanvas = some drawing ∧
      (layoutOf threePieces roundedCanvas).viewBox.height.isPositive = true ∧
      (numbers threePieces roundedCanvas).map Floating.text =
        ["100.1", "80.08", "10.01", "10.01", "80.08", "60.06", "20.02", "0.4448889",
          "30.03", "20.02", "60.06", "10.01", "40.04", "80.08", "30.03", "60.060005", "60.06",
          "10.01", "10.01", "30.03", "30.03", "70.07", "50.050003"] ∧
      (∀ number ∈ numbers threePieces roundedCanvas, number.isFinite = true) ∧
      ∀ word ∈ nonfiniteWords, ¬ word <:+: drawing.text := by
  have drawn : draw? threePieces (.ofTheme .dark) roundedCanvas =
      some (document threePieces (.ofTheme .dark) roundedCanvas) :=
    if_pos (by decide +kernel)
  have drawable := drawable_of_draw? drawn (by decide +kernel) (by decide +kernel)
    (exists_ofText_ofTheme .dark)
  have finite : (roundedCanvas * ((threePieces.height + 1 : Nat) : Binary32)).isFinite = true := by
    decide +kernel
  obtain ⟨-, height⟩ := drawable.viewBox_height finite
  refine ⟨_, drawn, height ?_, ?_, drawable.numbers_finite finite, ?_⟩
  · decide +kernel
  · decide +kernel
  · intro word nonfinite within
    have plain : ∀ word ∈ nonfiniteWords, ¬ (word <:+: (Palette.ofTheme .dark).light.text ∨
        word <:+: (Palette.ofTheme .dark).dark.text) := by
      decide +kernel
    exact plain word nonfinite (drawable.words finite word nonfinite within)

/-- A canvas near the end of the range is accepted, and the height of the drawn area is infinite; a
canvas near zero is accepted, and a cell has no size. -/
theorem not_drawable_extremes :
    (∃ drawing, draw? .single (.ofTheme .base) (.ofDecimal false 3 38) = some drawing ∧
      drawing.attribute? "viewBox" = some "0 0 300000000000000000000000000000000000000 inf") ∧
    (∃ drawing, draw? .single (.ofTheme .base) (.ofDecimal false 1 (-45)) = some drawing) ∧
    (layoutOf .single (.ofDecimal false 1 (-45))).cellSize.isPositive = false := by
  refine ⟨⟨_, if_pos ?_, ?_⟩, ⟨_, if_pos ?_⟩, ?_⟩
  · decide +kernel
  · decide +kernel
  · decide +kernel
  · decide +kernel

end Board

end ChessDiagram
