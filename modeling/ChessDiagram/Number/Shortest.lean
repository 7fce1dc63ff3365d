import ChessDiagram.Number.Floating
import ChessDiagram.Text.Blank

/-!
# Shortest decimal text

A finite number is written with the fewest decimal digits that still round to it.  The digits are
found on ever finer decimal grids: on each grid only the two neighbours of the number can round to
it, the first grid with a hit is taken, and of two hits the nearer, a tie going away from zero.

The digits are always written positionally, never with an exponent.  Whole numbers have no fraction,
and a zero keeps its sign.
-/

namespace ChessDiagram

namespace Text

/-- The text of `digits * 10 ^ exponent`, without superfluous zeros. -/
def positional (digits : Nat) (exponent : Int) : Text :=
  if 0 ≤ exponent then
    decimal digits ++ List.replicate exponent.toNat '0'
  else
    let places := (-exponent).toNat
    let fraction := decimal (digits % Nat.pow 10 places)
    let padded := List.replicate (places - fraction.length) '0' ++ fraction
    let kept := dropEndWhile (· == '0') padded
    decimal (digits / Nat.pow 10 places) ++ (if kept.isEmpty then [] else '.' :: kept)

end Text

/-- The exponent of the greatest power of ten that is not above a positive magnitude. -/
def decade (magnitude : Rat) : Int :=
  if 1 ≤ magnitude then
    (Text.decimal magnitude.floor.toNat).length - 1
  else
    -(Text.decimal (magnitude⁻¹.ceil.toNat - 1)).length

/-- The magnitudes that round to one number: an interval around it. -/
structure RoundingInterval where
  low : Rat
  magnitude : Rat
  high : Rat
  /-- Whether the ends round to the number too. -/
  closed : Bool

namespace RoundingInterval

/-- The interval of a positive number.  Below a power of two the neighbours lie twice as close. -/
def ofParts (format : Format) (significand : Nat) (exponent : Int) : RoundingInterval :=
  let unit : Rat := 2 ^ exponent
  let closeBelow := significand = Nat.pow 2 (format.precision - 1) ∧ format.least < exponent
  { low := (significand - (if closeBelow then 1 / 4 else 1 / 2)) * unit
    magnitude := significand * unit
    high := (significand + 1 / 2) * unit
    closed := significand % 2 = 0 }

def contains (interval : RoundingInterval) (candidate : Rat) : Bool :=
  if interval.closed then
    interval.low ≤ candidate && candidate ≤ interval.high
  else
    interval.low < candidate && candidate < interval.high

/-- The better hit among the two neighbours of the number on the grid of a power of ten. -/
def hit? (interval : RoundingInterval) (place : Int) : Option Nat :=
  let step : Rat := 10 ^ place
  let down := (interval.magnitude / step).floor.toNat
  let above := (down + 1 : Nat) * step
  match interval.contains (down * step), interval.contains above with
  | true, true =>
      some (if interval.magnitude - down * step < above - interval.magnitude then down else down + 1)
  | true, false => some down
  | false, true => some (down + 1)
  | false, false => none

/-- The digits and the place of the first hit, from the grid of the leading digit on. -/
def shortest (interval : RoundingInterval) (tries : Nat) : Nat × Int :=
  let lead := decade interval.magnitude
  ((List.range tries).findSome? fun (count : Nat) =>
    (interval.hit? (lead - count)).map fun digits => (digits, lead - count)).getD (0, 0)

end RoundingInterval

namespace Floating

variable {format : Format}

def text : Floating format → Text
  | .nan => "NaN"
  | .infinite negative => if negative then "-inf" else "inf"
  | .finite negative significand exponent _ =>
      let (digits, place) :=
        if significand = 0 then (0, 0)
        else (RoundingInterval.ofParts format significand exponent).shortest format.precision
      (if negative then ['-'] else []) ++ Text.positional digits place

end Floating

end ChessDiagram
