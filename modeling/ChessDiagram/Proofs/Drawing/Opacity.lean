import ChessDiagram.Color.Lexeme
import ChessDiagram.Color.Reading
import ChessDiagram.Drawing.Board
import ChessDiagram.Proofs.Color.Written
import Mathlib.Algebra.Order.Ring.Rat

/-!
# The opacity of paints

An element is painted with the alpha that the text of its colour carries, times the opacity that it
is given beside the colour.  A fill has no opacity beside its colour.  A line has the alpha of its
colour there once more, so that a line in a colour whose text carries an alpha is painted with the
square of it.  The text of a keyword carries none, not even that of `transparent`.
-/

namespace ChessDiagram

/-- The opacity of a paint among the attributes of an element, under a reading of numbers: the alpha
written in the paint's colour times the opacity beside it, either of which is one where it is
missing.  The keyword `transparent` has no alpha written in it and counts as one. -/
def paintOpacity (read : Text → Rat) (paint opacity : Text) (attributes : List (Text × Text)) :
    Rat :=
  (((attributes.lookup paint).bind Color.writtenAlpha?).map read).getD 1 *
    ((attributes.lookup opacity).map read).getD 1

/-- The alpha that is written in the text of a colour, and one where none is.  None is in a keyword:
a line in `transparent` has its zero from the opacity beside the colour alone. -/
def Color.writtenOpacity (read : Text → Rat) : Color → Rat
  | .named _ => 1
  | .given coordinates =>
      if coordinates.isTranslucent then read coordinates.alpha.text else 1

theorem Color.getD_writtenAlpha?_text (read : Text → Rat) (color : Color) :
    ((writtenAlpha? color.text).map read).getD 1 = color.writtenOpacity read := by
  rw [writtenAlpha?_text]
  cases color with
  | named keyword => rfl
  | given coordinates =>
      simp only [writtenOpacity]
      split <;> rfl

/-- Every line has the alpha of its colour once more beside the colour, and the dark tone of a board
is the colour of a line.  The light tone is a fill, which has it in the colour alone. -/
theorem Board.paintOpacity_tones (read : Text → Rat) :
    (∀ stroke : Stroke, paintOpacity read "stroke" "stroke-opacity" stroke.attributes =
      stroke.color.writtenOpacity read * read stroke.color.alpha.text) ∧
    ∀ (layout : Layout Binary32) (palette : Palette) (corner : Point Binary32),
      paintOpacity read "stroke" "stroke-opacity" (squares layout palette corner).attributes =
          palette.dark.writtenOpacity read * read palette.dark.alpha.text ∧
        paintOpacity read "fill" "fill-opacity" (background layout palette corner).attributes =
          palette.light.writtenOpacity read := by
  refine ⟨?_, fun layout palette corner => ⟨?_, ?_⟩⟩
  · intro stroke
    rw [← Color.getD_writtenAlpha?_text]
    rfl
  · rw [← Color.getD_writtenAlpha?_text]
    rfl
  · rw [← Color.getD_writtenAlpha?_text]
    exact mul_one _

/-- The value of a decimal number, zero where there is none. -/
def readDecimal (text : Text) : Rat :=
  ((Color.number? text).bind fun found => found.1.value?).getD 0

/-- A black that is half opaque. -/
def Color.halfBlack : Color :=
  .given {
    system := .rgb
    first := some (.zero false)
    second := some (.zero false)
    third := some (.zero false)
    alpha := some (.ofRat false (1 / 2)) }

/-- With a half opaque black for both tones the light squares are half opaque, as the colour asks,
and the dark ones only a quarter. -/
theorem Board.paintOpacity_tones_half :
    Color.ofText "rgba(0, 0, 0, 0.5)" = .ok .halfBlack ∧
      Color.halfBlack.alpha.value? = some (1 / 2) ∧
      paintOpacity readDecimal "fill" "fill-opacity"
        (background (layoutOf .single (.ofNat 1000)) { light := .halfBlack, dark := .halfBlack }
          (layoutOf .single (.ofNat 1000)).origin).attributes = 1 / 2 ∧
      paintOpacity readDecimal "stroke" "stroke-opacity"
        (squares (layoutOf .single (.ofNat 1000)) { light := .halfBlack, dark := .halfBlack }
          (layoutOf .single (.ofNat 1000)).origin).attributes = 1 / 4 := by
  decide +kernel

end ChessDiagram
