import ChessDiagram.Color.Basic
import ChessDiagram.Settings

/-!
# Palettes

The two tones of a board's squares.  Every theme has its own palette.
-/

namespace ChessDiagram

inductive Tone where
  | light
  | dark
deriving DecidableEq

structure Palette where
  light : Color
  dark : Color
deriving DecidableEq

namespace Palette

def ofTheme : Theme → Palette
  | .base => { light := .bisque, dark := .olivedrab }
  | .dark => {
      light := .ofBytes 0xb0 0xb0 0xb0 0xff
      dark := .ofBytes 0x4a 0x4a 0x4a 0xff }
  | .light => {
      light := .ofBytes 0xf0 0xd9 0xb5 0xff
      dark := .ofBytes 0xb5 0x88 0x63 0xff }

/-- Both tones equal as colours. -/
def equals (left right : Palette) : Bool :=
  left.light.equals right.light && left.dark.equals right.dark

end Palette

end ChessDiagram
