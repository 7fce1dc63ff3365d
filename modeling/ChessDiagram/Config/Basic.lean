import ChessDiagram.Color.Reading
import ChessDiagram.Palette

/-!
# Configuration

What the settings of a single diagram do not decide: the width of the canvas, tones that replace
those of every theme, and whether free text is escaped.  Tones are kept as texts and understood when
a palette is made of them, the light one first.
-/

namespace ChessDiagram

structure Config where
  canvas : Binary32 := .ofNat 1000
  lightSquare : Option Text := none
  darkSquare : Option Text := none
  escape : Bool := true

/-- A configured tone that is not a colour. -/
structure ToneError where
  tone : Tone
  error : Color.Error
deriving DecidableEq

namespace Tone

def key : Tone → Text
  | .light => "light_square"
  | .dark => "dark_square"

end Tone

namespace ToneError

def message (error : ToneError) : Text :=
  "Invalid " ++ error.tone.key ++ " in config: " ++ error.error.message

end ToneError

namespace Config

def toneText? (config : Config) : Tone → Option Text
  | .light => config.lightSquare
  | .dark => config.darkSquare

def tone (config : Config) (tone : Tone) : Except ToneError (Option Color) :=
  match config.toneText? tone with
  | none => .ok none
  | some text =>
      match Color.ofText text with
      | .ok color => .ok (some color)
      | .error error => .error { tone, error }

/-- A palette with the configured tones in place of its own. -/
def override (config : Config) (palette : Palette) : Except ToneError Palette := do
  let light ← config.tone .light
  let dark ← config.tone .dark
  return { light := light.getD palette.light, dark := dark.getD palette.dark }

end Config

end ChessDiagram
