import ChessDiagram.Text.Basic

/-!
# Decimal numerals

Natural numbers are written in decimal without leading zeros and read from any run of digits.
-/

namespace ChessDiagram.Text

def digitChar (digit : Nat) : Char :=
  Char.ofNat ('0'.toNat + digit)

def digitValue (character : Char) : Nat :=
  character.toNat - '0'.toNat

def decimal (number : Nat) : Text :=
  if number < 10 then
    [digitChar number]
  else
    decimal (number / 10) ++ [digitChar (number % 10)]

/-- The number that a run of digits stands for; leading zeros are allowed. -/
def decimalValue (digits : Text) : Nat :=
  digits.foldl (fun value digit => 10 * value + digitValue digit) 0

end ChessDiagram.Text
