import ChessDiagram.Number.Floating
import Mathlib.Algebra.Order.Field.Basic
import Mathlib.Data.Rat.Floor
import Mathlib.Tactic.Linarith

/-!
# Rounding

A magnitude is rounded to a multiple of the last place that it keeps.  The result differs from the
magnitude by half of that place at most: by a share of the magnitude, or, where the magnitude is too
small for a full significand, by half of the least number of the format.  A magnitude up to the
greatest number of the format rounds to a finite number, and only what is not above half of the
least number rounds to zero.
-/

namespace ChessDiagram

section Nearest

variable {magnitude : Rat} {number : Nat}

private theorem cast_floor_toNat (nonneg : 0 ≤ magnitude) :
    ((magnitude.floor.toNat : Nat) : Rat) = (magnitude.floor : Int) := by
  have floorNonneg : 0 ≤ magnitude.floor := Int.floor_nonneg.mpr nonneg
  exact_mod_cast congrArg (Int.cast : Int → Rat) (Int.toNat_of_nonneg floorNonneg)

private theorem floor_toNat_le (nonneg : 0 ≤ magnitude) :
    ((magnitude.floor.toNat : Nat) : Rat) ≤ magnitude := by
  rw [cast_floor_toNat nonneg]
  exact Int.floor_le magnitude

private theorem lt_floor_toNat_add_one (nonneg : 0 ≤ magnitude) :
    magnitude < (magnitude.floor.toNat : Nat) + 1 := by
  rw [cast_floor_toNat nonneg]
  exact Int.lt_floor_add_one magnitude

/-- The nearest number is the one below, at most half away, or the one above, at most half away. -/
theorem nearestNat_cases (nonneg : 0 ≤ magnitude) :
    ((nearestNat magnitude : Rat) ≤ magnitude ∧ magnitude ≤ nearestNat magnitude + 1 / 2) ∨
      (magnitude < nearestNat magnitude ∧ (nearestNat magnitude : Rat) ≤ magnitude + 1 / 2) := by
  have lower := floor_toNat_le nonneg
  have upper := lt_floor_toNat_add_one nonneg
  unfold nearestNat
  simp only
  split
  case isTrue close =>
    left
    constructor
    · exact lower
    · rcases close with near | ⟨tie, -⟩ <;> linarith
  case isFalse far =>
    right
    have half : ¬ magnitude - magnitude.floor.toNat < 1 / 2 := fun near => far (.inl near)
    push_cast
    constructor
    · exact upper
    · linarith

theorem abs_nearestNat_sub_le (nonneg : 0 ≤ magnitude) :
    |(nearestNat magnitude : Rat) - magnitude| ≤ 1 / 2 := by
  rw [abs_le]
  rcases nearestNat_cases nonneg with ⟨below, close⟩ | ⟨above, close⟩ <;>
    constructor <;> linarith

theorem nearestNat_le (nonneg : 0 ≤ magnitude) (bound : magnitude ≤ number) :
    nearestNat magnitude ≤ number := by
  rcases nearestNat_cases nonneg with ⟨below, -⟩ | ⟨-, close⟩
  · exact_mod_cast below.trans bound
  · have next : (nearestNat magnitude : Rat) < number + 1 := by linarith
    exact Nat.lt_succ_iff.mp (by exact_mod_cast next)

theorem le_nearestNat (bound : (number : Rat) ≤ magnitude) : number ≤ nearestNat magnitude := by
  have nonneg : 0 ≤ magnitude := (Nat.cast_nonneg number).trans bound
  rcases nearestNat_cases nonneg with ⟨-, close⟩ | ⟨above, -⟩
  · have next : (number : Rat) < nearestNat magnitude + 1 := by linarith
    exact Nat.lt_succ_iff.mp (by exact_mod_cast next)
  · exact_mod_cast (bound.trans_lt above).le

/-- A half is a tie, which goes to zero. -/
theorem nearestNat_pos_iff (nonneg : 0 ≤ magnitude) :
    0 < nearestNat magnitude ↔ 1 / 2 < magnitude := by
  constructor
  · intro positive
    by_contra small
    rw [not_lt] at small
    have floorZero : magnitude.floor = 0 :=
      Int.floor_eq_zero_iff.mpr ⟨nonneg, by linarith⟩
    have zero : nearestNat magnitude = 0 := by
      unfold nearestNat
      rw [floorZero]
      simp only [Int.toNat_zero, Nat.cast_zero, sub_zero]
      apply if_pos
      rcases small.lt_or_eq with less | tie
      · exact .inl less
      · exact .inr ⟨tie, by decide⟩
    omega
  · intro large
    rcases nearestNat_cases nonneg with ⟨-, close⟩ | ⟨above, -⟩
    · have positive : (0 : Rat) < nearestNat magnitude := by linarith
      exact_mod_cast positive
    · have positive : (0 : Rat) < nearestNat magnitude := nonneg.trans_lt above
      exact_mod_cast positive

end Nearest

section Binade

variable {magnitude : Rat}

theorem two_zpow_pos (exponent : Int) : (0 : Rat) < 2 ^ exponent :=
  zpow_pos (by norm_num) exponent

private theorem two_zpow_succ (exponent : Int) : (2 : Rat) ^ (exponent + 1) = 2 ^ exponent * 2 :=
  zpow_add_one₀ (by norm_num) exponent

/-- A natural number lies in the binade of its logarithm. -/
private theorem cast_mem_binade {number : Nat} (positive : 0 < number) :
    (2 : Rat) ^ (number.log2 : Int) ≤ number ∧ (number : Rat) < 2 ^ (number.log2 + 1 : Int) := by
  constructor
  · rw [zpow_natCast]
    exact_mod_cast Nat.log2_self_le positive.ne'
  · have upper : number < 2 ^ (number.log2 + 1) := Nat.lt_log2_self
    rw [← Nat.cast_succ, zpow_natCast]
    exact_mod_cast upper

/-- The quotient of the logarithms misses the binade by one at most. -/
private theorem binade_estimate (positive : 0 < magnitude) :
    (2 : Rat) ^ ((magnitude.num.natAbs.log2 : Int) - magnitude.den.log2 - 1) ≤ magnitude ∧
      magnitude < 2 ^ ((magnitude.num.natAbs.log2 : Int) - magnitude.den.log2 + 1) := by
  have numeratorPos : 0 < magnitude.num := Rat.num_pos.mpr positive
  obtain ⟨numeratorLower, numeratorUpper⟩ :=
    cast_mem_binade (Int.natAbs_pos.mpr numeratorPos.ne')
  obtain ⟨denominatorLower, denominatorUpper⟩ := cast_mem_binade magnitude.den_pos
  have numerator : ((magnitude.num.natAbs : Nat) : Rat) = magnitude * magnitude.den := by
    rw [Rat.mul_den_eq_num]
    rw [Nat.cast_natAbs, abs_of_pos numeratorPos]
  rw [numerator] at numeratorLower numeratorUpper
  have denominatorPos : (0 : Rat) < magnitude.den := by exact_mod_cast magnitude.den_pos
  constructor
  · have shifted : (2 : Rat) ^ ((magnitude.num.natAbs.log2 : Int) - magnitude.den.log2 - 1) =
        2 ^ (magnitude.num.natAbs.log2 : Int) / 2 ^ (magnitude.den.log2 + 1 : Int) := by
      rw [← zpow_sub₀ (by norm_num), sub_sub]
    rw [shifted, div_le_iff₀ (two_zpow_pos _)]
    exact numeratorLower.trans (mul_le_mul_of_nonneg_left denominatorUpper.le positive.le)
  · have shifted : (2 : Rat) ^ ((magnitude.num.natAbs.log2 : Int) - magnitude.den.log2 + 1) =
        2 ^ (magnitude.num.natAbs.log2 + 1 : Int) / 2 ^ (magnitude.den.log2 : Int) := by
      rw [← zpow_sub₀ (by norm_num), sub_add_eq_add_sub]
    rw [shifted, lt_div_iff₀ (two_zpow_pos _)]
    exact (mul_le_mul_of_nonneg_left denominatorLower positive.le).trans_lt numeratorUpper

theorem zpow_binade_le (positive : 0 < magnitude) : (2 : Rat) ^ binade magnitude ≤ magnitude := by
  unfold binade
  simp only
  split
  case isTrue reached => exact reached
  case isFalse => exact (binade_estimate positive).1

theorem lt_zpow_binade (positive : 0 < magnitude) : magnitude < 2 ^ (binade magnitude + 1) := by
  unfold binade
  simp only
  split
  case isTrue => exact (binade_estimate positive).2
  case isFalse missed =>
    rw [sub_add_cancel]
    exact not_le.mp missed

end Binade

namespace Format

variable (format : Format) {magnitude : Rat}

/-- The exponent of the last place that a magnitude keeps. -/
def lastExponent (magnitude : Rat) : Int :=
  max format.least (binade magnitude - (format.precision - 1))

/-- The last place that a magnitude keeps. -/
def lastPlace (magnitude : Rat) : Rat :=
  2 ^ format.lastExponent magnitude

/-- The multiple of its last place that a magnitude rounds to. -/
def rounded (magnitude : Rat) : Rat :=
  nearestNat (magnitude / format.lastPlace magnitude) * format.lastPlace magnitude

/-- The greatest finite number. -/
def greatestNumber : Rat :=
  (Nat.pow 2 format.precision - 1 : Nat) * 2 ^ format.greatest

/-- The share of a magnitude by which rounding may miss it. -/
def relativeError : Rat :=
  2 ^ (-format.precision : Int)

/-- Half of the least number above zero. -/
def halfLeast : Rat :=
  2 ^ (format.least - 1)

theorem lastPlace_pos : 0 < format.lastPlace magnitude :=
  two_zpow_pos _

theorem halfLeast_pos : 0 < format.halfLeast :=
  two_zpow_pos _

theorem relativeError_pos : 0 < format.relativeError :=
  two_zpow_pos _

theorem cast_two_pow (exponent : Nat) :
    ((Nat.pow 2 exponent : Nat) : Rat) = 2 ^ (exponent : Int) := by
  rw [zpow_natCast]
  exact Nat.cast_pow 2 exponent

theorem two_pow_eq_two_mul :
    Nat.pow 2 format.precision = 2 * Nat.pow 2 (format.precision - 1) := by
  have precision := format.precision_pos
  have succ : format.precision = format.precision - 1 + 1 := by omega
  rw [succ]
  exact Nat.pow_succ'

/-- A magnitude has at most as many places as the format has bits. -/
theorem div_lastPlace_lt (positive : 0 < magnitude) :
    magnitude / format.lastPlace magnitude < (Nat.pow 2 format.precision : Nat) := by
  rw [div_lt_iff₀ format.lastPlace_pos, cast_two_pow, lastPlace, ← zpow_add₀ (by norm_num)]
  apply (lt_zpow_binade positive).trans_le
  apply zpow_le_zpow_right₀ (by norm_num)
  unfold lastExponent
  omega

/-- A magnitude fills the significand, unless its last place is the least of the format. -/
theorem le_div_lastPlace (positive : 0 < magnitude) :
    ((Nat.pow 2 (format.precision - 1) : Nat) : Rat) ≤ magnitude / format.lastPlace magnitude ∨
      format.lastExponent magnitude = format.least := by
  by_cases small : binade magnitude - (format.precision - 1) ≤ format.least
  · right
    exact max_eq_left small
  · left
    rw [le_div_iff₀ format.lastPlace_pos, cast_two_pow, lastPlace, ← zpow_add₀ (by norm_num)]
    apply le_trans _ (zpow_binade_le positive)
    apply zpow_le_zpow_right₀ (by norm_num)
    have precision := format.precision_pos
    unfold lastExponent
    omega

/-- The last place is not above an exponent when the magnitude fits into the places from there. -/
theorem lastExponent_le_of_lt {exponent : Int} (positive : 0 < magnitude)
    (least : format.least ≤ exponent) (bound : magnitude < 2 ^ (format.precision + exponent : Int)) :
    format.lastExponent magnitude ≤ exponent := by
  have fits : binade magnitude < format.precision + exponent := by
    rw [← zpow_lt_zpow_iff_right₀ (show (1 : Rat) < 2 by norm_num)]
    exact (zpow_binade_le positive).trans_lt bound
  apply max_le least
  omega

theorem le_lastExponent_of_le {exponent : Int} (positive : 0 < magnitude)
    (bound : (2 : Rat) ^ (format.precision - 1 + exponent : Int) ≤ magnitude) :
    exponent ≤ format.lastExponent magnitude := by
  have reached : format.precision - 1 + exponent < binade magnitude + 1 := by
    rw [← zpow_lt_zpow_iff_right₀ (show (1 : Rat) < 2 by norm_num)]
    exact bound.trans_lt (lt_zpow_binade positive)
  apply le_max_of_le_right
  omega

theorem lastExponent_le (bound : magnitude ≤ format.greatestNumber) (positive : 0 < magnitude) :
    format.lastExponent magnitude ≤ format.greatest := by
  apply format.lastExponent_le_of_lt positive format.least_le_greatest
  apply bound.trans_lt
  rw [greatestNumber, zpow_add₀ (by norm_num), ← cast_two_pow]
  apply mul_lt_mul_of_pos_right _ (two_zpow_pos _)
  exact_mod_cast Nat.sub_lt (Nat.two_pow_pos format.precision) Nat.one_pos

theorem half_lastPlace_le (positive : 0 < magnitude) :
    format.lastPlace magnitude / 2 ≤ magnitude * format.relativeError + format.halfLeast := by
  have half : format.lastPlace magnitude / 2 = 2 ^ (format.lastExponent magnitude - 1) := by
    rw [zpow_sub_one₀ (by norm_num)]
    rfl
  rw [half]
  by_cases small : binade magnitude - (format.precision - 1) ≤ format.least
  · have last : format.lastExponent magnitude = format.least := max_eq_left small
    rw [last]
    exact le_add_of_nonneg_left (mul_pos positive format.relativeError_pos).le
  · have last : format.lastExponent magnitude - 1 = binade magnitude + -format.precision := by
      unfold lastExponent
      omega
    rw [last, zpow_add₀ (by norm_num)]
    have share := mul_le_mul_of_nonneg_right (zpow_binade_le positive) format.relativeError_pos.le
    exact share.trans (le_add_of_nonneg_right format.halfLeast_pos.le)

@[simp] theorem rounded_zero : format.rounded 0 = 0 := by
  have nearest : nearestNat 0 = 0 := Nat.le_zero.mp (nearestNat_le le_rfl Nat.cast_zero.ge)
  rw [rounded, zero_div, nearest, Nat.cast_zero, zero_mul]

/-- Rounding misses a magnitude by half of its last place at most. -/
theorem abs_rounded_sub_le_half (positive : 0 < magnitude) :
    |format.rounded magnitude - magnitude| ≤ format.lastPlace magnitude / 2 := by
  have place : 0 < format.lastPlace magnitude := format.lastPlace_pos
  have quotient : format.rounded magnitude - magnitude =
      (nearestNat (magnitude / format.lastPlace magnitude) -
        magnitude / format.lastPlace magnitude) * format.lastPlace magnitude := by
    rw [sub_mul, div_mul_cancel₀ _ place.ne', rounded]
  rw [quotient, abs_mul, abs_of_pos place]
  calc
    _ ≤ 1 / 2 * format.lastPlace magnitude :=
        mul_le_mul_of_nonneg_right (abs_nearestNat_sub_le (div_pos positive place).le) place.le
    _ = format.lastPlace magnitude / 2 := by ring

/-- Rounding misses a magnitude by a share of it and half of the least number at most. -/
theorem abs_rounded_sub_le (nonneg : 0 ≤ magnitude) :
    |format.rounded magnitude - magnitude| ≤
      magnitude * format.relativeError + format.halfLeast := by
  rcases nonneg.eq_or_lt with rfl | positive
  · rw [rounded_zero, sub_self, abs_zero, zero_mul, zero_add]
    exact format.halfLeast_pos.le
  · exact (format.abs_rounded_sub_le_half positive).trans (format.half_lastPlace_le positive)

theorem rounded_nonneg : 0 ≤ format.rounded magnitude :=
  mul_nonneg (Nat.cast_nonneg _) format.lastPlace_pos.le

/-- Only what is not above half of the least number rounds to zero. -/
theorem rounded_pos_iff (nonneg : 0 ≤ magnitude) :
    0 < format.rounded magnitude ↔ format.halfLeast < magnitude := by
  rcases nonneg.eq_or_lt with rfl | positive
  · rw [rounded_zero]
    exact iff_of_false (lt_irrefl 0) format.halfLeast_pos.not_gt
  · have place : 0 < format.lastPlace magnitude := format.lastPlace_pos
    have kept : 0 < format.rounded magnitude ↔ format.lastPlace magnitude / 2 < magnitude := by
      rw [rounded, mul_pos_iff_of_pos_right place, Nat.cast_pos,
        nearestNat_pos_iff (div_pos positive place).le, lt_div_iff₀ place]
      constructor <;> intro half <;> linarith
    rw [kept]
    rcases format.le_div_lastPlace positive with full | last
    · have one : (1 : Rat) ≤ (Nat.pow 2 (format.precision - 1) : Nat) := by
        exact_mod_cast Nat.two_pow_pos (format.precision - 1)
      rw [le_div_iff₀ place] at full
      have whole : format.lastPlace magnitude ≤ magnitude := by nlinarith
      have least : format.halfLeast ≤ format.lastPlace magnitude / 2 := by
        have half : format.lastPlace magnitude / 2 = 2 ^ (format.lastExponent magnitude - 1) := by
          rw [zpow_sub_one₀ (by norm_num)]
          rfl
        rw [half]
        apply zpow_le_zpow_right₀ (by norm_num)
        have bound : format.least ≤ format.lastExponent magnitude := le_max_left _ _
        omega
      constructor <;> intro <;> linarith
    · have half : format.lastPlace magnitude / 2 = format.halfLeast := by
        rw [lastPlace, last, halfLeast, zpow_sub_one₀ (by norm_num)]
        rfl
      rw [half]

end Format

namespace Floating

variable {format : Format} {negative : Bool} {magnitude : Rat}

theorem round_of_pos (positive : 0 < magnitude) :
    (round negative magnitude : Floating format) =
      let significand := nearestNat (magnitude / format.lastPlace magnitude)
      if significand < Nat.pow 2 format.precision then
        ofParts negative significand (format.lastExponent magnitude)
      else
        ofParts negative (significand / 2) (format.lastExponent magnitude + 1) :=
  if_neg positive.not_ge

theorem value?_ofParts {significand : Nat} {exponent : Int}
    (finite : (ofParts negative significand exponent : Floating format).isFinite = true) :
    (ofParts negative significand exponent : Floating format).value? =
      some (if negative then -((significand : Rat) * 2 ^ exponent)
        else (significand : Rat) * 2 ^ exponent) := by
  unfold ofParts at finite ⊢
  split at finite
  case isTrue canonical =>
    rw [dif_pos canonical]
    rfl
  case isFalse => cases finite

/-- A finite result of rounding is the multiple of the last place. -/
theorem value?_round (nonneg : 0 ≤ magnitude)
    (finite : (round negative magnitude : Floating format).isFinite = true) :
    (round negative magnitude : Floating format).value? =
      some (if negative then -format.rounded magnitude else format.rounded magnitude) := by
  rcases nonneg.eq_or_lt with rfl | positive
  · have zero : (round negative 0 : Floating format) = zero negative := if_pos (le_refl 0)
    simp [zero, Floating.zero, value?]
  · rw [round_of_pos positive] at finite ⊢
    simp only at finite ⊢
    split at finite
    case isTrue small =>
      rw [if_pos small, value?_ofParts finite]
      rfl
    case isFalse large =>
      rw [if_neg large, value?_ofParts finite]
      -- The magnitude rounds up to the next power of two, which loses no place.
      have top : nearestNat (magnitude / format.lastPlace magnitude) =
          Nat.pow 2 format.precision := by
        apply le_antisymm _ (not_lt.mp large)
        exact nearestNat_le (div_pos positive format.lastPlace_pos).le
          (format.div_lastPlace_lt positive).le
      have even : Nat.pow 2 format.precision / 2 * 2 = Nat.pow 2 format.precision := by
        have halves := format.two_pow_eq_two_mul
        omega
      have halved : ((Nat.pow 2 format.precision / 2 : Nat) : Rat) *
          2 ^ (format.lastExponent magnitude + 1) = format.rounded magnitude := by
        rw [Format.rounded, top, ← even, Nat.cast_mul, even, two_zpow_succ, Format.lastPlace]
        push_cast
        ring
      rw [top, halved]

theorem isFinite_ofParts {significand : Nat} {exponent : Int}
    (canonical : format.Canonical significand exponent) :
    (ofParts negative significand exponent : Floating format).isFinite = true := by
  rw [ofParts, dif_pos canonical]
  rfl

/-- Rounding stays finite up to the greatest finite number. -/
theorem isFinite_round (bound : magnitude ≤ format.greatestNumber) :
    (round negative magnitude : Floating format).isFinite = true := by
  rcases le_or_gt magnitude 0 with nonpos | positive
  · have zero : (round negative magnitude : Floating format) = zero negative := if_pos nonpos
    rw [zero]
    rfl
  · have place : 0 < format.lastPlace magnitude := format.lastPlace_pos
    have quotient := (div_pos positive place).le
    have least : format.least ≤ format.lastExponent magnitude := le_max_left _ _
    have greatest := format.lastExponent_le bound positive
    have full : Nat.pow 2 (format.precision - 1) ≤
        nearestNat (magnitude / format.lastPlace magnitude) ∨
          format.lastExponent magnitude = format.least :=
      (format.le_div_lastPlace positive).imp_left le_nearestNat
    rw [round_of_pos positive]
    simp only
    split
    case isTrue small => exact isFinite_ofParts ⟨small, least, greatest, full⟩
    case isFalse large =>
      have below : format.lastExponent magnitude < format.greatest := by
        apply lt_of_le_of_ne greatest
        intro top
        apply large
        have places : magnitude / format.lastPlace magnitude ≤
            (Nat.pow 2 format.precision - 1 : Nat) := by
          rw [div_le_iff₀ format.lastPlace_pos, Format.lastPlace, top]
          exact bound
        have one := Nat.two_pow_pos format.precision
        exact (nearestNat_le quotient places).trans_lt (Nat.sub_lt one Nat.one_pos)
      have top := nearestNat_le quotient (format.div_lastPlace_lt positive).le
      have equal := le_antisymm top (not_lt.mp large)
      rw [equal]
      apply isFinite_ofParts
      have halves := format.two_pow_eq_two_mul
      refine ⟨?_, by omega, by omega, .inl ?_⟩
      · have one := Nat.two_pow_pos format.precision
        exact Nat.div_lt_self one Nat.one_lt_two
      · omega

end Floating

end ChessDiagram
