import ChessDiagram.Number.Floating

/-!
# The order of numbers

Two finite numbers are ordered as their exact values are, and infinities lie outside of them.  A
number that can be drawn on is therefore one whose value is above zero, and a number that is clamped
lies between the bounds; what is not a number has no place in the order.
-/

namespace ChessDiagram.Floating

variable {format : Format}

@[simp] theorem value?_zero (negative : Bool) :
    (zero negative : Floating format).value? = some 0 := by
  simp [zero, value?]

theorem below_iff {left right : Floating format} {leftValue rightValue : Rat}
    (leftFinite : left.value? = some leftValue) (rightFinite : right.value? = some rightValue) :
    below left right = true ↔ leftValue < rightValue := by
  cases left with
  | nan => cases leftFinite
  | infinite negative => cases leftFinite
  | finite negative significand exponent canonical =>
      cases right with
      | nan => cases rightFinite
      | infinite otherNegative => cases rightFinite
      | finite otherNegative otherSignificand otherExponent otherCanonical =>
          simp only [below, compare?, leftFinite, rightFinite, Option.getD_some]
          split
          · simp_all
          · split <;> simp_all

theorem isPositive_iff {number : Floating format} :
    number.isPositive = true ↔ ∃ value, number.value? = some value ∧ 0 < value := by
  cases number with
  | nan => simp [isPositive, isFinite, value?]
  | infinite negative => simp [isPositive, isFinite, value?]
  | finite negative significand exponent canonical =>
      obtain ⟨value, finite⟩ : ∃ value,
          (Floating.finite negative significand exponent canonical).value? = some value := ⟨_, rfl⟩
      rw [isPositive, isFinite, Bool.true_and, below_iff (value?_zero false) finite, finite]
      simp

theorem below_infinite {negative : Bool} {bound : Floating format} {value : Rat}
    (finite : bound.value? = some value) : below (infinite negative) bound = negative := by
  cases bound with
  | nan => cases finite
  | infinite other => cases finite
  | finite => cases negative <;> rfl

theorem infinite_below {negative : Bool} {bound : Floating format} {value : Rat}
    (finite : bound.value? = some value) : below bound (infinite negative) = !negative := by
  cases bound with
  | nan => cases finite
  | infinite other => cases finite
  | finite => cases negative <;> rfl

/-- Every number is clamped to a finite one between the bounds. -/
theorem exists_value?_clamp {number low high : Floating format} {lowValue highValue : Rat}
    (isNumber : number ≠ nan) (lowFinite : low.value? = some lowValue)
    (highFinite : high.value? = some highValue) (ordered : lowValue ≤ highValue) :
    ∃ value, (number.clamp low high).value? = some value ∧
      lowValue ≤ value ∧ value ≤ highValue := by
  have lowest : ∃ value, low.value? = some value ∧ lowValue ≤ value ∧ value ≤ highValue :=
    ⟨lowValue, lowFinite, Rat.le_refl, ordered⟩
  have highest : ∃ value, high.value? = some value ∧ lowValue ≤ value ∧ value ≤ highValue :=
    ⟨highValue, highFinite, ordered, Rat.le_refl⟩
  unfold clamp
  cases number with
  | nan => exact absurd rfl isNumber
  | infinite negative =>
      rw [below_infinite lowFinite, infinite_below highFinite]
      cases negative with
      | true => exact lowest
      | false => exact highest
  | finite negative significand exponent canonical =>
      obtain ⟨value, finite⟩ : ∃ value,
          (Floating.finite negative significand exponent canonical).value? = some value := ⟨_, rfl⟩
      split
      case isTrue => exact lowest
      case isFalse notBelow =>
        split
        case isTrue => exact highest
        case isFalse notAbove =>
          rw [below_iff finite lowFinite, Rat.not_lt] at notBelow
          rw [below_iff highFinite finite, Rat.not_lt] at notAbove
          exact ⟨value, finite, notBelow, notAbove⟩

end ChessDiagram.Floating
