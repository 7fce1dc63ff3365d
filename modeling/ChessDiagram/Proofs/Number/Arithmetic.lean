import ChessDiagram.Proofs.Number.Order
import ChessDiagram.Proofs.Number.Rounding

/-!
# Arithmetic on finite numbers

An operation on finite numbers rounds its exact result.  Numbers that are not below zero are bounded
by sixty-fourths of the range of the format: while a sum, a product or a quotient stays below the
last of them, the rounded result is finite, and rounding moves it by less than one of them.
-/

namespace ChessDiagram.Floating

section Exact

variable {format : Format} {left right : Floating format} {leftValue rightValue value : Rat}

theorem isFinite_iff {number : Floating format} :
    number.isFinite = true ↔ ∃ value, number.value? = some value := by
  cases number <;> simp [isFinite, value?]

theorem isFinite_of_value? {number : Floating format} (known : number.value? = some value) :
    number.isFinite = true :=
  isFinite_iff.mpr ⟨value, known⟩

theorem value?_le_greatestNumber {number : Floating format} (known : number.value? = some value) :
    value ≤ format.greatestNumber := by
  cases number with
  | nan => cases known
  | infinite negative => cases known
  | finite negative significand exponent canonical =>
      have power : (0 : Rat) < 2 ^ exponent := zpow_pos (by norm_num) exponent
      have whole : (significand : Rat) ≤ (Nat.pow 2 format.precision - 1 : Nat) := by
        exact_mod_cast Nat.le_sub_one_of_lt canonical.1
      have powers : (2 : Rat) ^ exponent ≤ 2 ^ format.greatest :=
        zpow_le_zpow_right₀ (by norm_num) canonical.2.2.1
      have magnitude : (significand : Rat) * 2 ^ exponent ≤ format.greatestNumber :=
        mul_le_mul whole powers power.le (Nat.cast_nonneg _)
      have nonneg : 0 ≤ (significand : Rat) * 2 ^ exponent :=
        mul_nonneg (Nat.cast_nonneg _) power.le
      rw [← Option.some.inj known]
      split <;> linarith

theorem add_eq_ofRat (leftKnown : left.value? = some leftValue)
    (rightKnown : right.value? = some rightValue) :
    left + right = ofRat (left.isNegative && right.isNegative) (leftValue + rightValue) := by
  cases left with
  | nan => cases leftKnown
  | infinite negative => cases leftKnown
  | finite negative significand exponent canonical =>
      cases right with
      | nan => cases rightKnown
      | infinite negative => cases rightKnown
      | finite =>
          rw [← Option.some.inj leftKnown, ← Option.some.inj rightKnown]
          rfl

theorem mul_eq_ofRat (leftKnown : left.value? = some leftValue)
    (rightKnown : right.value? = some rightValue) :
    left * right = ofRat (left.isNegative != right.isNegative) (leftValue * rightValue) := by
  cases left with
  | nan => cases leftKnown
  | infinite negative => cases leftKnown
  | finite negative significand exponent canonical =>
      cases right with
      | nan => cases rightKnown
      | infinite negative => cases rightKnown
      | finite =>
          rw [← Option.some.inj leftKnown, ← Option.some.inj rightKnown]
          rfl

theorem div_eq_ofRat (leftKnown : left.value? = some leftValue)
    (rightKnown : right.value? = some rightValue) (divisor : rightValue ≠ 0) :
    left / right = ofRat (left.isNegative != right.isNegative) (leftValue / rightValue) := by
  cases left with
  | nan => cases leftKnown
  | infinite negative => cases leftKnown
  | finite negative significand exponent canonical =>
      cases right with
      | nan => cases rightKnown
      | infinite negative => cases rightKnown
      | finite otherNegative otherSignificand otherExponent otherCanonical =>
          have nonzero : otherSignificand ≠ 0 := by
            rintro rfl
            apply divisor
            rw [← Option.some.inj rightKnown]
            simp
          rw [← Option.some.inj leftKnown, ← Option.some.inj rightKnown]
          exact if_neg nonzero

variable {zeroSign : Bool} {magnitude : Rat}

theorem isFinite_ofRat (nonneg : 0 ≤ magnitude) (bound : magnitude ≤ format.greatestNumber) :
    (ofRat zeroSign magnitude : Floating format).isFinite = true := by
  unfold ofRat
  split
  · rfl
  · rw [if_neg nonneg.not_gt]
    exact isFinite_round bound

theorem value?_ofRat (nonneg : 0 ≤ magnitude)
    (finite : (ofRat zeroSign magnitude : Floating format).isFinite = true) :
    (ofRat zeroSign magnitude : Floating format).value? = some (format.rounded magnitude) := by
  unfold ofRat at finite ⊢
  split at finite
  case isTrue zero =>
    rw [if_pos zero, zero, format.rounded_zero]
    simp [Floating.zero, value?]
  case isFalse nonzero =>
    rw [if_neg nonneg.not_gt] at finite ⊢
    rw [if_neg nonzero]
    exact value?_round nonneg finite

end Exact

/-- A sixty-fourth of the range of single precision. -/
def part : Rat :=
  2 ^ (122 : Int)

/-- The number lies between zero and a count of parts of the range. -/
def UpTo (number : Binary32) (parts : Nat) : Prop :=
  ∃ value, number.value? = some value ∧ 0 ≤ value ∧ value ≤ parts * part

variable {left right : Binary32} {parts leftParts rightParts : Nat} {magnitude : Rat}

theorem binary32_errors :
    Format.binary32.relativeError = 1 / 16777216 ∧ Format.binary32.halfLeast ≤ 1 / 16777216 ∧
      1 ≤ part ∧ 62 * part ≤ Format.binary32.greatestNumber ∧
      Format.binary32.greatestNumber ≤ 64 * part := by
  simp only [Format.relativeError, Format.halfLeast, Format.greatestNumber, Format.binary32, part]
  norm_num

theorem UpTo.isFinite (bounded : left.UpTo parts) : left.isFinite = true := by
  obtain ⟨value, known, -⟩ := bounded
  exact isFinite_of_value? known

theorem UpTo.mono (bounded : left.UpTo leftParts) (bound : leftParts ≤ parts) :
    left.UpTo parts := by
  obtain ⟨value, known, nonneg, upper⟩ := bounded
  have positive : (0 : Rat) ≤ part := zero_le_one.trans binary32_errors.2.2.1
  refine ⟨value, known, nonneg, upper.trans (mul_le_mul_of_nonneg_right ?_ positive)⟩
  exact_mod_cast bound

theorem upTo_zero : ((0 : Nat) : Binary32).UpTo 0 :=
  ⟨0, value?_zero false, le_rfl, by rw [Nat.cast_zero, zero_mul]⟩

/-- Rounding moves a number by less than a part. -/
theorem rounded_le_parts (nonneg : 0 ≤ magnitude) (upper : magnitude ≤ parts * part)
    (range : parts ≤ 62) : Format.binary32.rounded magnitude ≤ (parts + 1 : Nat) * part := by
  obtain ⟨relative, least, one, -, -⟩ := binary32_errors
  have error := (abs_le.mp (Format.binary32.abs_rounded_sub_le nonneg)).2
  have count : (parts : Rat) ≤ 62 := by exact_mod_cast range
  have limit : (parts : Rat) * part ≤ 62 * part := mul_le_mul_of_nonneg_right count (by linarith)
  rw [relative] at error
  push_cast
  linarith

theorem upTo_ofRat {zeroSign : Bool} (nonneg : 0 ≤ magnitude) (upper : magnitude ≤ parts * part)
    (range : parts ≤ 62) : (ofRat zeroSign magnitude : Binary32).UpTo (parts + 1) := by
  obtain ⟨-, -, one, greatest, -⟩ := binary32_errors
  have count : (parts : Rat) ≤ 62 := by exact_mod_cast range
  have limit : (parts : Rat) * part ≤ 62 * part := mul_le_mul_of_nonneg_right count (by linarith)
  have finite : (ofRat zeroSign magnitude : Binary32).isFinite = true :=
    isFinite_ofRat nonneg (upper.trans (limit.trans greatest))
  exact ⟨_, value?_ofRat nonneg finite, Format.binary32.rounded_nonneg,
    rounded_le_parts nonneg upper range⟩

theorem UpTo.add (leftBounded : left.UpTo leftParts) (rightBounded : right.UpTo rightParts)
    (range : leftParts + rightParts ≤ 62) : (left + right).UpTo (leftParts + rightParts + 1) := by
  obtain ⟨leftValue, leftKnown, leftNonneg, leftUpper⟩ := leftBounded
  obtain ⟨rightValue, rightKnown, rightNonneg, rightUpper⟩ := rightBounded
  rw [add_eq_ofRat leftKnown rightKnown]
  apply upTo_ofRat (add_nonneg leftNonneg rightNonneg) _ range
  push_cast
  linarith

theorem UpTo.div (leftBounded : left.UpTo leftParts) {divisor : Rat}
    (known : right.value? = some divisor) (positive : 0 < divisor)
    (quotient : leftParts ≤ parts * divisor) (range : parts ≤ 62) :
    (left / right).UpTo (parts + 1) := by
  obtain ⟨value, leftKnown, nonneg, upper⟩ := leftBounded
  have one := binary32_errors.2.2.1
  rw [div_eq_ofRat leftKnown known positive.ne']
  apply upTo_ofRat (div_nonneg nonneg positive.le) _ range
  rw [div_le_iff₀ positive]
  calc
    value ≤ leftParts * part := upper
    _ ≤ parts * divisor * part := mul_le_mul_of_nonneg_right quotient (by linarith)
    _ = parts * part * divisor := by ring

/-- A count that a machine word holds is rounded to a finite number close to it. -/
theorem exists_value?_cast {count : Nat} (word : count ≤ Nat.pow 2 64) :
    ∃ value, (count : Binary32).value? = some value ∧
      1023 / 1024 * (count : Rat) ≤ value ∧ value ≤ 1025 / 1024 * (count : Rat) := by
  obtain ⟨relative, least, one, greatest, -⟩ := binary32_errors
  have nonneg : (0 : Rat) ≤ count := Nat.cast_nonneg count
  have bound : (count : Rat) ≤ Format.binary32.greatestNumber := by
    have limit : (count : Rat) ≤ (Nat.pow 2 64 : Nat) := by exact_mod_cast word
    have small : ((Nat.pow 2 64 : Nat) : Rat) ≤ part := by
      rw [part]
      norm_num
    linarith
  have finite : (count : Binary32).isFinite = true := isFinite_round bound
  refine ⟨_, value?_round nonneg finite, ?_⟩
  rw [if_neg Bool.false_ne_true]
  rcases Nat.eq_zero_or_pos count with rfl | positive
  · simp
  · have atLeastOne : (1 : Rat) ≤ count := by exact_mod_cast positive
    obtain ⟨lower, upper⟩ := abs_le.mp (Format.binary32.abs_rounded_sub_le nonneg)
    rw [relative] at lower upper
    constructor <;> linarith

end ChessDiagram.Floating
