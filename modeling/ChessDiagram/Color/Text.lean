import ChessDiagram.Color.Basic
import ChessDiagram.Number.Shortest

/-!
# The text of a colour

A keyword is its name.  Colours of the `rgb` system, and those of `hsl` and `hwb` after conversion,
are written `rgb(r, g, b)`, or `rgba(r, g, b, a)` when they are not opaque, with components up to
255.  The other systems keep their own function, where a slash comes before the alpha.
-/

namespace ChessDiagram.Color

namespace Space

def name : Space → Text
  | .srgb => "srgb"
  | .srgbLinear => "srgb-linear"
  | .displayP3 => "display-p3"
  | .a98Rgb => "a98-rgb"
  | .prophotoRgb => "prophoto-rgb"
  | .rec2020 => "rec2020"
  | .xyzD50 => "xyz-d50"
  | .xyzD65 => "xyz-d65"

end Space

private def single (number : Nat) : Binary32 :=
  .ofNat number

/-- One channel of a hue, saturation and lightness, the last two in hundredths. -/
def hslChannel (hue saturation lightness : Binary32) (offset : Nat) : Binary32 :=
  let hundredth : Binary32 := single 1 / single 100
  let light := lightness * hundredth
  let chroma := saturation * hundredth * light.smaller (single 1 - light)
  let turned := single offset + hue * (single 1 / single 30)
  let phase := turned - single 12 * (turned * (single 1 / single 12)).floor
  let slope := (phase - single 3).smaller (single 9 - phase)
  light - chroma * slope.clamp (-single 1) (single 1)

/-- One channel of a hue, whiteness and blackness, the last two in hundredths. -/
def hwbChannel (hue whiteness blackness : Binary32) (offset : Nat) : Binary32 :=
  let hundredth : Binary32 := single 1 / single 100
  let white := whiteness * hundredth
  let black := blackness * hundredth
  if (white + black).below (single 1) then
    white + hslChannel hue (single 100) (single 50) offset * (single 1 - white - black)
  else
    white / (white + black)

namespace Component

def text (component : Component) : Text :=
  match component with
  | some number => number.text
  | none => "none"

def scale (factor : Binary32) (component : Component) : Component :=
  component.map (· * factor)

end Component

namespace Coordinates

def isTranslucent (coordinates : Coordinates) : Bool :=
  coordinates.alpha.number.below (single 1)

/-- The same colour in the `rgb` system, by a rule for its three channels. -/
private def toRgb (coordinates : Coordinates)
    (channel : Binary32 → Binary32 → Binary32 → Nat → Binary32) : Coordinates :=
  let value := channel coordinates.first.number coordinates.second.number coordinates.third.number
  { system := .rgb
    first := some (value 0)
    second := some (value 8)
    third := some (value 4)
    alpha := coordinates.alpha }

def rgbText (coordinates : Coordinates) : Text :=
  let channel := fun (component : Component) => (component.scale (single 255)).text
  let channels := [
    channel coordinates.first, channel coordinates.second, channel coordinates.third]
  if coordinates.isTranslucent then
    "rgba(" ++ Text.join ", " (channels ++ [coordinates.alpha.text]) ++ ")"
  else
    "rgb(" ++ Text.join ", " channels ++ ")"

/-- The text of a function whose arguments stand behind an opening, separated by spaces. -/
def functionText (opening : Text) (coordinates : Coordinates) : Text :=
  let components := Text.join " " [
    coordinates.first.text, coordinates.second.text, coordinates.third.text]
  let alpha := if coordinates.isTranslucent then " / " ++ coordinates.alpha.text else []
  opening ++ components ++ alpha ++ ")"

def text (coordinates : Coordinates) : Text :=
  match coordinates.system with
  | .rgb => coordinates.rgbText
  | .hsl => (coordinates.toRgb hslChannel).rgbText
  | .hwb => (coordinates.toRgb hwbChannel).rgbText
  | .lab => functionText "lab(" coordinates
  | .lch => functionText "lch(" coordinates
  | .oklab => functionText "oklab(" coordinates
  | .oklch => functionText "oklch(" coordinates
  | .inSpace space => functionText ("color(" ++ space.name ++ " ") coordinates

end Coordinates

def text : Color → Text
  | .named keyword => keyword.text
  | .given coordinates => coordinates.text

end ChessDiagram.Color
