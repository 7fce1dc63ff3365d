import ChessDiagram.Text.Decimal

/-!
# Floating-point numbers

A binary format has a fixed count of significant bits and a range of exponents.  A number of the
format is not a number at all, an infinity, or a signed significand times a power of two in the one
form that the format allows.

Every operation computes its exact rational result and rounds it once: to the nearest number, a tie
to the even significand, and to an infinity where the exponent leaves the range.  The two formats in
use have 24 and 53 bits; drawings are computed in the first, written colours are read in the second.
-/

namespace ChessDiagram

/-- A binary format: `precision` significant bits, whose last bit has an exponent in a range. -/
structure Format where
  precision : Nat
  least : Int
  greatest : Int
  precision_pos : 0 < precision
  least_le_greatest : least ≤ greatest

namespace Format

def binary32 : Format where
  precision := 24
  least := -149
  greatest := 104
  precision_pos := by decide
  least_le_greatest := by decide

def binary64 : Format where
  precision := 53
  least := -1074
  greatest := 971
  precision_pos := by decide
  least_le_greatest := by decide

/-- The one form of a finite number: the significand is full unless the exponent is the least. -/
def Canonical (format : Format) (significand : Nat) (exponent : Int) : Prop :=
  significand < Nat.pow 2 format.precision ∧ format.least ≤ exponent ∧ exponent ≤ format.greatest ∧
    (Nat.pow 2 (format.precision - 1) ≤ significand ∨ exponent = format.least)

instance (format : Format) (significand : Nat) (exponent : Int) :
    Decidable (format.Canonical significand exponent) :=
  inferInstanceAs (Decidable (_ ∧ _))

end Format

inductive Floating (format : Format) where
  | nan
  | infinite (negative : Bool)
  | finite (negative : Bool) (significand : Nat) (exponent : Int)
      (canonical : format.Canonical significand exponent)
deriving DecidableEq

abbrev Binary32 := Floating .binary32

abbrev Binary64 := Floating .binary64

/-- The natural number nearest to a magnitude, a tie going to the even one. -/
def nearestNat (magnitude : Rat) : Nat :=
  let below := magnitude.floor.toNat
  let rest := magnitude - below
  if rest < 1 / 2 ∨ (rest = 1 / 2 ∧ below % 2 = 0) then below else below + 1

/-- The exponent of the greatest power of two that is not above a positive magnitude. -/
def binade (magnitude : Rat) : Int :=
  let estimate : Int := Nat.log2 magnitude.num.natAbs - Nat.log2 magnitude.den
  if (2 : Rat) ^ estimate ≤ magnitude then estimate else estimate - 1

namespace Floating

variable {format : Format}

def zero (negative : Bool) : Floating format :=
  .finite negative 0 format.least
    ⟨Nat.two_pow_pos _, Int.le_refl _, format.least_le_greatest, .inr rfl⟩

/-- The finite number of given parts, or an infinity where the format does not hold them. -/
def ofParts (negative : Bool) (significand : Nat) (exponent : Int) : Floating format :=
  if canonical : format.Canonical significand exponent then
    .finite negative significand exponent canonical
  else
    .infinite negative

/-- The number that a magnitude rounds to, with a given sign. -/
def round (negative : Bool) (magnitude : Rat) : Floating format :=
  if magnitude ≤ 0 then
    zero negative
  else
    let last := max format.least (binade magnitude - (format.precision - 1))
    let significand := nearestNat (magnitude / 2 ^ last)
    if significand < Nat.pow 2 format.precision then
      ofParts negative significand last
    else
      ofParts negative (significand / 2) (last + 1)

def isFinite : Floating format → Bool
  | .finite .. => true
  | _ => false

def value? : Floating format → Option Rat
  | .finite negative significand exponent _ =>
      let magnitude := (significand : Rat) * 2 ^ exponent
      some (if negative then -magnitude else magnitude)
  | _ => none

/-- The number that an exact value rounds to; `zeroSign` is the sign of a zero. -/
def ofRat (zeroSign : Bool) (value : Rat) : Floating format :=
  if value = 0 then zero zeroSign
  else if value < 0 then round true (-value)
  else round false value

def ofNat (number : Nat) : Floating format :=
  round false number

instance : NatCast (Floating format) where
  natCast := ofNat

/-- The number that `digits * 10 ^ exponent` rounds to.  Exponents far outside the range of the
format are decided by the count of digits alone. -/
def ofDecimal (negative : Bool) (digits : Nat) (exponent : Int) : Floating format :=
  let magnitude := (Text.decimal digits).length + exponent
  if digits = 0 ∨ 3 * magnitude < format.least - 1 then
    zero negative
  else if format.greatest + format.precision ≤ 3 * (magnitude - 1) then
    .infinite negative
  else
    round negative (digits * 10 ^ exponent)

/-- The same number in another format, rounded where that format is narrower. -/
def convert {other : Format} : Floating format → Floating other
  | .nan => .nan
  | .infinite negative => .infinite negative
  | .finite negative significand exponent _ => round negative (significand * 2 ^ exponent)

def isNegative : Floating format → Bool
  | .nan => false
  | .infinite negative => negative
  | .finite negative _ _ _ => negative

def neg : Floating format → Floating format
  | .nan => .nan
  | .infinite negative => .infinite !negative
  | .finite negative significand exponent canonical =>
      .finite (!negative) significand exponent canonical

def add (left right : Floating format) : Floating format :=
  match left, right with
  | .nan, _ => .nan
  | _, .nan => .nan
  | .infinite leftNegative, .infinite rightNegative =>
      if leftNegative = rightNegative then .infinite leftNegative else .nan
  | .infinite negative, _ => .infinite negative
  | _, .infinite negative => .infinite negative
  | .finite .., .finite .. =>
      ofRat (left.isNegative && right.isNegative) (left.value?.getD 0 + right.value?.getD 0)

def sub (left right : Floating format) : Floating format :=
  add left (neg right)

def mul (left right : Floating format) : Floating format :=
  let negative := left.isNegative != right.isNegative
  match left, right with
  | .nan, _ => .nan
  | _, .nan => .nan
  | .infinite _, .infinite _ => .infinite negative
  | .infinite _, .finite _ significand _ _ =>
      if significand = 0 then .nan else .infinite negative
  | .finite _ significand _ _, .infinite _ =>
      if significand = 0 then .nan else .infinite negative
  | .finite .., .finite .. => ofRat negative (left.value?.getD 0 * right.value?.getD 0)

def div (left right : Floating format) : Floating format :=
  let negative := left.isNegative != right.isNegative
  match left, right with
  | .nan, _ => .nan
  | _, .nan => .nan
  | .infinite _, .infinite _ => .nan
  | .infinite _, .finite .. => .infinite negative
  | .finite .., .infinite _ => zero negative
  | .finite _ dividend _ _, .finite _ divisor _ _ =>
      if divisor = 0 then
        if dividend = 0 then .nan else .infinite negative
      else
        ofRat negative (left.value?.getD 0 / right.value?.getD 0)

instance : Neg (Floating format) := ⟨neg⟩

instance : Add (Floating format) := ⟨add⟩

instance : Sub (Floating format) := ⟨sub⟩

instance : Mul (Floating format) := ⟨mul⟩

instance : Div (Floating format) := ⟨div⟩

/-- The order of two numbers.  What is not a number has no place in it, and zeros are equal. -/
def compare? (left right : Floating format) : Option Ordering :=
  match left, right with
  | .nan, _ => none
  | _, .nan => none
  | .infinite leftNegative, .infinite rightNegative =>
      some (compare rightNegative.toNat leftNegative.toNat)
  | .infinite negative, .finite .. => some (if negative then .lt else .gt)
  | .finite .., .infinite negative => some (if negative then .gt else .lt)
  | .finite .., .finite .. =>
      let leftValue := left.value?.getD 0
      let rightValue := right.value?.getD 0
      some (if leftValue < rightValue then .lt else if leftValue = rightValue then .eq else .gt)

def equals (left right : Floating format) : Bool :=
  compare? left right == some .eq

def below (left right : Floating format) : Bool :=
  compare? left right == some .lt

/-- The smaller of two numbers; what is not a number yields to the other. -/
def smaller (left right : Floating format) : Floating format :=
  match left, right with
  | .nan, _ => right
  | _, .nan => left
  | _, _ => if below right left then right else left

/-- The number itself inside the bounds, else the bound that it passes. -/
def clamp (number low high : Floating format) : Floating format :=
  if below number low then low else if below high number then high else number

/-- The greatest integer that is not above a number. -/
def floor : Floating format → Floating format
  | .nan => .nan
  | .infinite negative => .infinite negative
  | .finite negative significand exponent canonical =>
      if 0 ≤ exponent then
        .finite negative significand exponent canonical
      else
        let magnitude := (significand : Rat) * 2 ^ exponent
        ofRat negative (Rat.floor (if negative then -magnitude else magnitude))

/-- A size that can be drawn: finite and above zero. -/
def isPositive (number : Floating format) : Bool :=
  number.isFinite && below (zero false) number

end Floating

end ChessDiagram
