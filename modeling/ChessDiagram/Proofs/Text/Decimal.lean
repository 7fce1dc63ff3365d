import ChessDiagram.Text.Decimal
import Mathlib.Data.Nat.Digits.Defs

/-!
# Reading numerals back

The numeral of a number is a run of digits, and its digits stand for the number.
-/

namespace ChessDiagram.Text

theorem isDigit_digitChar {digit : Nat} (small : digit < 10) :
    isDigit (digitChar digit) = true := by
  have all : ∀ digit : Fin 10, isDigit (digitChar digit) = true := by decide
  exact all ⟨digit, small⟩

theorem digitValue_digitChar {digit : Nat} (small : digit < 10) :
    digitValue (digitChar digit) = digit := by
  have all : ∀ digit : Fin 10, digitValue (digitChar digit) = digit := by decide
  exact all ⟨digit, small⟩

theorem isDigit_of_mem_decimal (number : Nat) :
    ∀ character ∈ decimal number, isDigit character = true := by
  induction number using decimal.induct with
  | case1 number small =>
      rw [decimal, if_pos small]
      simpa using isDigit_digitChar small
  | case2 number large induction =>
      rw [decimal, if_neg large]
      intro character member
      rcases List.mem_append.mp member with front | last
      · exact induction character front
      · rw [List.mem_singleton.mp last]
        exact isDigit_digitChar (Nat.mod_lt _ (by omega))

theorem decimal_ne_nil (number : Nat) : decimal number ≠ [] := by
  rw [decimal]
  split <;> simp

theorem decimalValue_append_digit (digits : Text) (digit : Char) :
    decimalValue (digits ++ [digit]) = 10 * decimalValue digits + digitValue digit := by
  simp [decimalValue]

/-- Digits stand for the number of which they are the digits in base ten, the first one being the
most significant. -/
theorem decimalValue_eq_ofDigits (digits : Text) :
    decimalValue digits = Nat.ofDigits 10 (digits.reverse.map digitValue) := by
  rw [decimalValue, Nat.ofDigits_eq_foldr, List.foldr_map, List.foldr_reverse]
  apply congrFun (congrFun (congrArg List.foldl _) 0) digits
  funext value digit
  rw [Nat.cast_id, Nat.add_comm]

theorem decimalValue_decimal (number : Nat) : decimalValue (decimal number) = number := by
  induction number using decimal.induct with
  | case1 number small =>
      rw [decimal, if_pos small]
      simpa [decimalValue] using digitValue_digitChar small
  | case2 number large induction =>
      have last : digitValue (digitChar (number % 10)) = number % 10 :=
        digitValue_digitChar (Nat.mod_lt _ (by omega))
      rw [decimal, if_neg large, decimalValue_append_digit, induction, last]
      omega

end ChessDiagram.Text
