import ChessDiagram.Color.Basic
import ChessDiagram.Color.Lexeme
import ChessDiagram.Text.Blank

/-!
# Reading colours

A colour is written as a keyword, as `#` with hexadecimal digits, or as a function of its components.
Blanks around it are ignored and nothing else may stand beside it.

The `rgb` and `hsl` functions take commas between all their arguments or between none, as the first
separator decides; the alpha comes after a comma or after a slash accordingly.  Spaces may stand
around every separator except before the comma after a hue.  The other functions take no commas.
Written numbers are computed in double precision and stored in single precision.
-/

namespace ChessDiagram.Color

/-- Why a text is not a colour. -/
inductive Fault where
  | unknownAngleDimension
  | unknownAngle
  | unknownComponent
  | unknownIdentifier
  | unknownSpace
  | unknownSyntax
  | expectedArguments
  | expectedClosingParenthesis
  | expectedSpaceIdentifier
  | expectedComma
  | expectedEnd
  | wrongHexDigitCount
deriving DecidableEq

namespace Fault

def message : Fault → Text
  | .unknownAngleDimension => "unknown angle dimension"
  | .unknownAngle => "unknown angle"
  | .unknownComponent => "unknown color component"
  | .unknownIdentifier => "unknown color identifier"
  | .unknownSpace => "unknown color space"
  | .unknownSyntax => "unknown color syntax"
  | .expectedArguments => "expected arguments"
  | .expectedClosingParenthesis => "expected closing parenthesis"
  | .expectedSpaceIdentifier => "expected color space identifier"
  | .expectedComma => "expected comma"
  | .expectedEnd => "expected end of string"
  | .wrongHexDigitCount => "wrong number of hex digits"

end Fault

structure Error where
  source : Text
  fault : Fault
deriving DecidableEq

namespace Error

def message (error : Error) : Text :=
  "invalid color `" ++ error.source ++ "`: " ++ error.fault.message

end Error

/-- Reading consumes the text from its start and may fail. -/
abbrev Reading := StateT Text (Except Fault)

namespace Reading

private def double (number : Nat) : Binary64 :=
  .ofNat number

private def hundredth : Binary64 :=
  .ofDecimal false 1 (-2)

/-- Skips spaces and reads a punctuation mark, if it comes next.  The start of a comment that is not
closed is no mark. -/
def mark? (character : Char) : Reading Bool := fun text =>
  match skipSpace text with
  | [] => .ok (false, [])
  | '/' :: '*' :: rest => .ok (false, '/' :: '*' :: rest)
  | next :: rest => .ok (if next = character then (true, rest) else (false, next :: rest))

/-- Reads a comma that follows at once; comments may stand before it, spaces may not. -/
def commaAtOnce? : Reading Bool := fun text =>
  match skipComments text with
  | ',' :: rest => .ok (true, rest)
  | rest => .ok (false, rest)

/-- The opening parenthesis follows a function's name at once. -/
def opening : Reading Unit := fun text =>
  match text with
  | '(' :: rest => .ok ((), rest)
  | _ => .error .expectedArguments

def closing : Reading Unit := do
  unless ← mark? ')' do
    throw .expectedClosingParenthesis

def value : Reading (Option Value) := fun text =>
  match value? (skipSpace text) with
  | some (value, rest) => .ok (some value, rest)
  | none => .ok (none, text)

/-- A component, with the factors of a plain number and of a percentage. -/
def component (factor percentFactor : Binary64) : Reading (Option Binary64) := do
  match ← value with
  | some (.number number) => return some (number * factor)
  | some (.percentage number) => return some (number * percentFactor)
  | some (.word word) => if Text.agrees "none" word then return none else throw .unknownComponent
  | _ => throw .unknownComponent

/-- The degrees in one of an angle's unit. -/
def degreesPer? (unit : Text) : Option Binary64 :=
  let name := Text.lower unit
  if name = "deg" then some (double 1)
  else if name = "rad" then some (double 180 / .ofDecimal false 3141592653589793 (-15))
  else if name = "grad" then some (.ofDecimal false 9 (-1))
  else if name = "turn" then some (double 360)
  else none

def angle : Reading (Option Binary64) := do
  match ← value with
  | some (.number number) => return some number
  | some (.word word) => if Text.agrees "none" word then return none else throw .unknownAngle
  | some (.dimension number unit) =>
      match degreesPer? unit with
      | some degrees => return some (number * degrees)
      | none => throw .unknownAngleDimension
  | _ => throw .unknownAngle

def separator (commas : Bool) : Reading Unit := do
  if commas then
    unless ← mark? ',' do
      throw .expectedComma

private def clampTo (limit : Binary64) (component : Option Binary64) : Option Binary64 :=
  component.map fun number => number.clamp (double 0) limit

/-- The alpha after a comma or a slash; without either the colour is opaque. -/
def alpha (commas : Bool) : Reading (Option Binary64) := do
  if ← mark? (if commas then ',' else '/') then
    return clampTo (double 1) (← component (double 1) hundredth)
  else
    return some (double 1)

/-- The component, with zero in place of a number that is not above it. -/
private def atLeastZero (component : Option Binary64) : Option Binary64 :=
  component.map fun number => if (double 0).below number then number else double 0

private def coordinates (system : System) (first second third alpha : Option Binary64) :
    Coordinates where
  system := system
  first := first.map Floating.convert
  second := second.map Floating.convert
  third := third.map Floating.convert
  alpha := alpha.map Floating.convert

def rgb : Reading Coordinates := do
  let channel := component (double 1 / double 255) hundredth
  opening
  let red := clampTo (double 1) (← channel)
  let commas ← mark? ','
  let green := clampTo (double 1) (← channel)
  separator commas
  let blue := clampTo (double 1) (← channel)
  let alpha ← alpha commas
  closing
  return coordinates .rgb red green blue alpha

def hsl : Reading Coordinates := do
  opening
  let hue ← angle
  let commas ← commaAtOnce?
  let saturation := atLeastZero (← component (double 1) (double 1))
  separator commas
  let lightness ← component (double 1) (double 1)
  let alpha ← alpha commas
  closing
  return coordinates .hsl hue saturation lightness alpha

def hwb : Reading Coordinates := do
  opening
  let hue ← angle
  let whiteness ← component (double 1) (double 1)
  let blackness ← component (double 1) (double 1)
  let alpha ← alpha false
  closing
  return coordinates .hwb hue whiteness blackness alpha

/-- Lightness and two opponent axes, with the greatest lightness and the factor of a percentage. -/
def opponent (system : System) (limit percentFactor : Binary64) : Reading Coordinates := do
  opening
  let lightness := clampTo limit (← component (double 1) (hundredth * limit))
  let first ← component (double 1) percentFactor
  let second ← component (double 1) percentFactor
  let alpha ← alpha false
  closing
  return coordinates system lightness first second alpha

/-- Lightness, chroma and hue, with the greatest lightness and the factor of a percentage. -/
def polar (system : System) (limit percentFactor : Binary64) : Reading Coordinates := do
  opening
  let lightness := clampTo limit (← component (double 1) (hundredth * limit))
  let chroma := atLeastZero (← component (double 1) percentFactor)
  let hue ← angle
  let alpha ← alpha false
  closing
  return coordinates system lightness chroma hue alpha

def space? (word : Text) : Option Space :=
  let name := Text.lower word
  if name = "srgb" then some .srgb
  else if name = "srgb-linear" then some .srgbLinear
  else if name = "display-p3" then some .displayP3
  else if name = "a98-rgb" then some .a98Rgb
  else if name = "prophoto-rgb" then some .prophotoRgb
  else if name = "rec2020" then some .rec2020
  else if name = "xyz-d50" then some .xyzD50
  else if name = "xyz" ∨ name = "xyz-d65" then some .xyzD65
  else none

def spaceName : Reading Space := fun text =>
  match identifier? (skipSpace text) with
  | none => .error .expectedSpaceIdentifier
  | some (word, rest) =>
      match space? word with
      | some space => .ok (space, rest)
      | none => .error .unknownSpace

def inSpace : Reading Coordinates := do
  opening
  let space ← spaceName
  let first ← component (double 1) hundredth
  let second ← component (double 1) hundredth
  let third ← component (double 1) hundredth
  let alpha ← alpha false
  closing
  return coordinates (.inSpace space) first second third alpha

/-- The reading of a function's arguments, by the function's name. -/
def function? (word : Text) : Option (Reading Coordinates) :=
  let name := Text.lower word
  let finePercent : Binary64 := .ofDecimal false 4 (-3)
  let coarsePercent : Binary64 := .ofDecimal false 125 (-2)
  if name = "rgb" ∨ name = "rgba" then some rgb
  else if name = "hsl" ∨ name = "hsla" then some hsl
  else if name = "hwb" then some hwb
  else if name = "lab" then some (opponent .lab (double 100) coarsePercent)
  else if name = "lch" then some (polar .lch (double 100) coarsePercent)
  else if name = "oklab" then some (opponent .oklab (double 1) finePercent)
  else if name = "oklch" then some (polar .oklch (double 1) finePercent)
  else if name = "color" then some inSpace
  else none

def color : Reading Color := fun text =>
  match identifier? text with
  | none => .error .unknownSyntax
  | some (word, rest) =>
      match function? word with
      | some arguments => (Color.given <$> arguments).run rest
      | none =>
          match Keyword.ofName? word with
          | some keyword => .ok (.named keyword, rest)
          | none => .error .unknownIdentifier

end Reading

def hexDigit? (character : Char) : Option Nat :=
  if Text.isDigit character then some (Text.digitValue character)
  else if 'a' ≤ character ∧ character ≤ 'f' then some (character.toNat - 'a'.toNat + 10)
  else if 'A' ≤ character ∧ character ≤ 'F' then some (character.toNat - 'A'.toNat + 10)
  else none

/-- The colour of three or four components of one or two hexadecimal digits each. -/
def ofHexDigits? (digits : List Nat) : Option Color :=
  match digits with
  | [r, g, b] => some (ofBytes (17 * r) (17 * g) (17 * b) 255)
  | [r, g, b, a] => some (ofBytes (17 * r) (17 * g) (17 * b) (17 * a))
  | [r, r', g, g', b, b'] => some (ofBytes (16 * r + r') (16 * g + g') (16 * b + b') 255)
  | [r, r', g, g', b, b', a, a'] =>
      some (ofBytes (16 * r + r') (16 * g + g') (16 * b + b') (16 * a + a'))
  | _ => none

/-- The colour at the start of a text, and the text after it. -/
def take (text : Text) : Except Fault (Color × Text) :=
  match text with
  | '#' :: rest =>
      let digits := (rest.takeWhile fun character => (hexDigit? character).isSome).take 8
      match ofHexDigits? (digits.filterMap hexDigit?) with
      | some color => .ok (color, rest.drop digits.length)
      | none => .error .wrongHexDigitCount
  | _ => Reading.color.run text

def ofText (source : Text) : Except Error Color :=
  match take (Text.trim source) with
  | .ok (color, []) => .ok color
  | .ok (_, _ :: _) => .error { source, fault := .expectedEnd }
  | .error fault => .error { source, fault }

end ChessDiagram.Color
