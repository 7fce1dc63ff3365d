import ChessDiagram.Proofs.Number.Arithmetic

/-!
# Exact results

A finite number has one form only: its exponent is that of the last place of its value, so that
numbers above zero with the same value are the same.  Rounding keeps every multiple of the last
place, and what a whole number rounds to is whole.
-/

namespace ChessDiagram

theorem nearestNat_natCast (number : Nat) : nearestNat (number : Rat) = number :=
  le_antisymm (nearestNat_le (Nat.cast_nonneg number) le_rfl) (le_nearestNat le_rfl)

namespace Format

variable {format : Format} {significand : Nat} {exponent : Int}

private theorem places_pos (positive : 0 < significand) : (0 : Rat) < significand * 2 ^ exponent :=
  mul_pos (Nat.cast_pos.mpr positive) (two_zpow_pos exponent)

theorem lastExponent_le_of_places (positive : 0 < significand)
    (few : significand < Nat.pow 2 format.precision) (least : format.least ≤ exponent) :
    format.lastExponent (significand * 2 ^ exponent) ≤ exponent := by
  apply format.lastExponent_le_of_lt (places_pos positive) least
  rw [zpow_add₀ (by norm_num), ← cast_two_pow]
  exact mul_lt_mul_of_pos_right (Nat.cast_lt.mpr few) (two_zpow_pos exponent)

theorem Canonical.lastExponent_eq (canonical : format.Canonical significand exponent)
    (positive : 0 < significand) :
    format.lastExponent (significand * 2 ^ exponent) = exponent := by
  obtain ⟨few, least, -, full⟩ := canonical
  apply le_antisymm (lastExponent_le_of_places positive few least)
  rcases full with full | rfl
  · apply format.le_lastExponent_of_le (places_pos positive)
    rw [← Nat.cast_pred format.precision_pos, zpow_add₀ (by norm_num), ← cast_two_pow]
    exact mul_le_mul_of_nonneg_right (Nat.cast_le.mpr full) (two_zpow_pos exponent).le
  · exact le_max_left _ _

/-- Rounding keeps a multiple of a power of two that is not below the last place. -/
theorem rounded_of_lastExponent_le
    (coarse : format.lastExponent (significand * 2 ^ exponent) ≤ exponent) :
    format.rounded (significand * 2 ^ exponent) = significand * 2 ^ exponent := by
  obtain ⟨shift, shifted⟩ := Int.eq_ofNat_of_zero_le (Int.sub_nonneg.mpr coarse)
  have place : 0 < format.lastPlace (significand * 2 ^ exponent) := format.lastPlace_pos
  have whole : (significand : Rat) * 2 ^ exponent =
      (significand * 2 ^ shift : Nat) * format.lastPlace (significand * 2 ^ exponent) := by
    rw [lastPlace, Nat.cast_mul, Nat.cast_pow, Nat.cast_ofNat, ← zpow_natCast, ← shifted, mul_assoc,
      ← zpow_add₀ (by norm_num), sub_add_cancel]
  have quotient := (eq_div_iff place.ne').mpr whole.symm
  rw [rounded, ← quotient, nearestNat_natCast, ← whole]

/-- Rounding keeps every value whose places the format has. -/
theorem rounded_of_places (few : significand < Nat.pow 2 format.precision)
    (least : format.least ≤ exponent) :
    format.rounded (significand * 2 ^ exponent) = significand * 2 ^ exponent := by
  rcases Nat.eq_zero_or_pos significand with rfl | positive
  · simp
  · exact rounded_of_lastExponent_le (lastExponent_le_of_places positive few least)

/-- A value above zero that rounding keeps, in the places from the last one. -/
theorem exists_places {value : Rat} (positive : 0 < value) (kept : format.rounded value = value) :
    ∃ places : Nat, value = places * format.lastPlace value ∧
      0 < places ∧ places < Nat.pow 2 format.precision ∧
        (Nat.pow 2 (format.precision - 1) ≤ places ∨ format.lastExponent value = format.least) := by
  have place : 0 < format.lastPlace value := format.lastPlace_pos
  have whole : value =
      nearestNat (value / format.lastPlace value) * format.lastPlace value := kept.symm
  have quotient := (div_eq_iff place.ne').mpr whole
  have above := div_pos positive place
  have below := format.div_lastPlace_lt positive
  have full := format.le_div_lastPlace positive
  rw [quotient] at above below full
  exact ⟨_, whole, Nat.cast_pos.mp above, Nat.cast_lt.mp below, full.imp_left Nat.cast_le.mp⟩

theorem exists_rounded_natCast (format : Format) (number : Nat) :
    ∃ whole : Nat, format.rounded number = whole := by
  rcases le_total (format.lastExponent number) 0 with fine | coarse
  · have unit : (number : Rat) = number * 2 ^ (0 : Int) := by rw [zpow_zero, mul_one]
    rw [unit] at fine ⊢
    exact ⟨number, (rounded_of_lastExponent_le fine).trans unit.symm⟩
  · obtain ⟨places, exponent⟩ := Int.eq_ofNat_of_zero_le coarse
    refine ⟨nearestNat (number / format.lastPlace number) * 2 ^ places, ?_⟩
    rw [rounded, lastPlace, exponent, zpow_natCast]
    push_cast
    rfl

end Format

namespace Floating

variable {format : Format} {left right : Floating format} {value : Rat}

/-- The form of a number above zero. -/
theorem exists_canonical_of_pos (known : left.value? = some value) (positive : 0 < value) :
    ∃ significand exponent, ∃ canonical : format.Canonical significand exponent,
      left = .finite false significand exponent canonical ∧ 0 < significand ∧
        value = significand * 2 ^ exponent := by
  cases left with
  | nan => cases known
  | infinite negative => cases known
  | finite negative significand exponent canonical =>
      have power := two_zpow_pos exponent
      have magnitude : (0 : Rat) ≤ significand * 2 ^ exponent :=
        mul_nonneg (Nat.cast_nonneg significand) power.le
      cases negative with
      | true =>
          have negated : -((significand : Rat) * 2 ^ exponent) = value := Option.some.inj known
          linarith
      | false =>
          have same : (significand : Rat) * 2 ^ exponent = value := Option.some.inj known
          refine ⟨significand, exponent, canonical, rfl, ?_, same.symm⟩
          rw [← same] at positive
          exact Nat.cast_pos.mp (pos_of_mul_pos_left positive power.le)

theorem eq_of_value?_eq (leftKnown : left.value? = some value)
    (rightKnown : right.value? = some value) (positive : 0 < value) : left = right := by
  obtain ⟨leftSignificand, leftExponent, leftCanonical, rfl, leftPositive, leftValue⟩ :=
    exists_canonical_of_pos leftKnown positive
  obtain ⟨rightSignificand, rightExponent, rightCanonical, rfl, rightPositive, rightValue⟩ :=
    exists_canonical_of_pos rightKnown positive
  have leftPlace := leftCanonical.lastExponent_eq leftPositive
  have rightPlace := rightCanonical.lastExponent_eq rightPositive
  rw [← leftValue] at leftPlace
  rw [← rightValue] at rightPlace
  obtain rfl : leftExponent = rightExponent := leftPlace.symm.trans rightPlace
  have significands := mul_right_cancel₀ (two_zpow_pos leftExponent).ne'
    (leftValue.symm.trans rightValue)
  obtain rfl : leftSignificand = rightSignificand := Nat.cast_injective significands
  rfl

theorem ofParts_eq_infinite {negative : Bool} {significand : Nat} {exponent : Int}
    (overflow : (ofParts negative significand exponent : Floating format).isFinite = false) :
    (ofParts negative significand exponent : Floating format) = infinite negative := by
  unfold ofParts at overflow ⊢
  split at overflow
  case isTrue => cases overflow
  case isFalse missing => rw [dif_neg missing]

theorem round_eq_infinite {negative : Bool} {magnitude : Rat}
    (overflow : (round negative magnitude : Floating format).isFinite = false) :
    (round negative magnitude : Floating format) = infinite negative := by
  unfold round at overflow ⊢
  split at overflow
  case isTrue => cases overflow
  case isFalse positive =>
    rw [if_neg positive]
    simp only at overflow ⊢
    split at overflow
    case isTrue few => rw [if_pos few, ofParts_eq_infinite overflow]
    case isFalse many => rw [if_neg many, ofParts_eq_infinite overflow]

/-- What is not below zero and rounds to no finite number rounds to the infinity above zero. -/
theorem ofRat_eq_infinite {zeroSign : Bool} (nonneg : 0 ≤ value)
    (overflow : (ofRat zeroSign value : Floating format).isFinite = false) :
    (ofRat zeroSign value : Floating format) = infinite false := by
  unfold ofRat at overflow ⊢
  split at overflow
  case isTrue => cases overflow
  case isFalse nonzero =>
    rw [if_neg nonneg.not_gt] at overflow ⊢
    rw [if_neg nonzero, round_eq_infinite overflow]

theorem rounded_of_value? (known : left.value? = some value) (positive : 0 < value) :
    format.rounded value = value := by
  obtain ⟨significand, exponent, canonical, -, -, rfl⟩ := exists_canonical_of_pos known positive
  exact Format.rounded_of_places canonical.1 canonical.2.1

end Floating

end ChessDiagram
