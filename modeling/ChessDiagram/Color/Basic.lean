import ChessDiagram.Color.Keyword
import ChessDiagram.Number.Floating

/-!
# Colours

A colour is a keyword, or three coordinates and an alpha in one of the systems in which colours are
written.  A coordinate may be missing; it then counts as zero where a number is needed and stays
different from a written zero everywhere else.

Two colours are equal when they are the same keyword, or when their systems are the same and their
coordinates are missing in the same places and equal in all others.  A hexadecimal colour is one of
the `rgb` system.
-/

namespace ChessDiagram

namespace Color

/-- The colour spaces of the `color` function. -/
inductive Space where
  | srgb
  | srgbLinear
  | displayP3
  | a98Rgb
  | prophotoRgb
  | rec2020
  | xyzD50
  | xyzD65
deriving DecidableEq

inductive System where
  | rgb
  | hsl
  | hwb
  | lab
  | lch
  | oklab
  | oklch
  | inSpace (space : Space)
deriving DecidableEq

/-- A coordinate, or nothing where it is missing. -/
abbrev Component := Option Binary32

namespace Component

/-- The number that stands for a coordinate. -/
def number (component : Component) : Binary32 :=
  component.getD (Floating.zero false)

def equals : Component → Component → Bool
  | some left, some right => left.equals right
  | none, none => true
  | _, _ => false

end Component

structure Coordinates where
  system : System
  first : Component
  second : Component
  third : Component
  alpha : Component
deriving DecidableEq

namespace Coordinates

def equals (left right : Coordinates) : Bool :=
  left.system == right.system && left.first.equals right.first &&
    left.second.equals right.second && left.third.equals right.third &&
    left.alpha.equals right.alpha

end Coordinates

end Color

inductive Color where
  | named (keyword : Color.Keyword)
  | given (coordinates : Color.Coordinates)
deriving DecidableEq

namespace Color

def equals : Color → Color → Bool
  | .named left, .named right => left == right
  | .given left, .given right => left.equals right
  | _, _ => false

def ofKeyword (name : String) (listed : name ∈ keywordNames) : Color :=
  .named { name, listed }

def black : Color :=
  ofKeyword "black" (by simp [keywordNames])

def white : Color :=
  ofKeyword "white" (by simp [keywordNames])

def bisque : Color :=
  ofKeyword "bisque" (by simp [keywordNames])

def olivedrab : Color :=
  ofKeyword "olivedrab" (by simp [keywordNames])

def byteComponent (byte : Nat) : Component :=
  some ((byte : Binary32) * ((1 : Nat) / (255 : Nat)))

def ofBytes (red green blue alpha : Nat) : Color :=
  .given {
    system := .rgb
    first := byteComponent red
    second := byteComponent green
    third := byteComponent blue
    alpha := byteComponent alpha }

def alpha : Color → Binary32
  | .named keyword => .ofNat (if keyword.isTransparent then 0 else 1)
  | .given coordinates => coordinates.alpha.number

end Color

end ChessDiagram
