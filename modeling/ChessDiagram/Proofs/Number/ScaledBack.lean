import ChessDiagram.Proofs.Number.Exactness
import Mathlib.Data.Nat.Prime.Basic

/-!
# Scaling up and back

A number is multiplied by a count and divided by it again, with rounding after each step.  Rounding
moves the product by less than a last place of the number for each of the counted, and never by just
half of that.  The quotient therefore has the last place of the number.  It rounds to the number
when the product moved by less than half of that share, and to a neighbour otherwise.
-/

namespace ChessDiagram

/-- A count is divided by a power of two when a multiple of the power misses one of the count by
half. -/
private theorem two_pow_dvd_of_half {whole count places shift : Nat} (positive : 0 < places)
    (half : 2 * |((whole * 2 ^ shift : Nat) : Int) - (places * count : Nat)| = count) :
    2 ^ shift ∣ count := by
  have odd : ∃ factor, Odd factor ∧ 2 ^ shift ∣ count * factor := by
    rcases le_total ((places * count : Nat) : Int) (whole * 2 ^ shift : Nat) with above | below
    · rw [abs_of_nonneg (sub_nonneg.mpr above)] at half
      refine ⟨2 * places + 1, odd_two_mul_add_one places, 2 * whole, ?_⟩
      zify
      push_cast at half
      linarith
    · rw [abs_of_nonpos (sub_nonpos.mpr below)] at half
      obtain ⟨before, rfl⟩ := Nat.exists_eq_add_of_lt positive
      refine ⟨2 * before + 1, odd_two_mul_add_one before, 2 * whole, ?_⟩
      zify
      push_cast at half
      linarith
  obtain ⟨factor, odd, divides⟩ := odd
  exact ((Nat.coprime_two_left.mpr odd).pow_left shift).dvd_of_dvd_mul_right divides

namespace Format

/-- How far rounding moves a number times a count. -/
def productError (format : Format) (value : Rat) (count : Nat) : Rat :=
  |format.rounded (value * count) - value * count|

theorem productError_eq_zero_iff {format : Format} {value : Rat} {count : Nat} :
    format.productError value count = 0 ↔ format.rounded (value * count) = value * count := by
  rw [productError, abs_eq_zero, sub_eq_zero]

/-- A number times a count, rounded, over the count. -/
def scaledBack (format : Format) (value : Rat) (count : Nat) : Rat :=
  format.rounded (value * count) / count

/-- A number and a count, both above zero and both kept by rounding. -/
structure Scaling (format : Format) (value : Rat) (count : Nat) : Prop where
  value_pos : 0 < value
  value_kept : format.rounded value = value
  count_pos : 0 < count
  count_kept : format.rounded count = count

namespace Scaling

variable {format : Format} {value : Rat} {count : Nat}

theorem cast_count_pos (scaling : format.Scaling value count) : (0 : Rat) < count :=
  Nat.cast_pos.mpr scaling.count_pos

theorem product_pos (scaling : format.Scaling value count) : 0 < value * count :=
  mul_pos scaling.value_pos scaling.cast_count_pos

/-- One last place of the number for each of the counted. -/
theorem share_pos (scaling : format.Scaling value count) : 0 < count * format.lastPlace value :=
  mul_pos scaling.cast_count_pos format.lastPlace_pos

/-- The product is a multiple of the last place of the number. -/
theorem exists_product (scaling : format.Scaling value count) :
    ∃ places : Nat, 0 < places ∧
      value * count = (places * count : Nat) * format.lastPlace value := by
  obtain ⟨places, form, positive, -⟩ := exists_places scaling.value_pos scaling.value_kept
  refine ⟨places, positive, ?_⟩
  rw [Nat.cast_mul, mul_right_comm, ← form]

theorem productError_of_le (scaling : format.Scaling value count)
    (coarse : format.lastExponent (value * count) ≤ format.lastExponent value) :
    format.productError value count = 0 := by
  obtain ⟨places, -, product⟩ := scaling.exists_product
  rw [productError_eq_zero_iff]
  rw [product] at coarse ⊢
  exact rounded_of_lastExponent_le coarse

theorem productError_lt (scaling : format.Scaling value count) :
    format.productError value count < count * format.lastPlace value := by
  rcases le_or_gt (format.lastExponent (value * count)) (format.lastExponent value) with
    coarse | fine
  · rw [scaling.productError_of_le coarse]
    exact scaling.share_pos
  · -- The product fills its places, so that its last place is less than two shares.
    have full : ((Nat.pow 2 (format.precision - 1) : Nat) : Rat) *
        format.lastPlace (value * count) ≤ value * count := by
      rcases format.le_div_lastPlace scaling.product_pos with full | least
      · exact (le_div_iff₀ format.lastPlace_pos).mp full
      · have above : format.least ≤ format.lastExponent value := le_max_left _ _
        omega
    have halves : ((Nat.pow 2 format.precision : Nat) : Rat) =
        2 * (Nat.pow 2 (format.precision - 1) : Nat) := by
      exact_mod_cast format.two_pow_eq_two_mul
    have top : (0 : Rat) < (Nat.pow 2 (format.precision - 1) : Nat) :=
      Nat.cast_pos.mpr (Nat.two_pow_pos _)
    have places : value < (Nat.pow 2 format.precision : Nat) * format.lastPlace value :=
      (div_lt_iff₀ format.lastPlace_pos).mp (format.div_lastPlace_lt scaling.value_pos)
    have share : format.lastPlace (value * count) < 2 * (count * format.lastPlace value) := by
      rw [← mul_lt_mul_iff_right₀ top]
      calc
        _ ≤ value * count := full
        _ < (Nat.pow 2 format.precision : Nat) * format.lastPlace value * count :=
            mul_lt_mul_of_pos_right places scaling.cast_count_pos
        _ = _ := by rw [halves]; ring
    have error := format.abs_rounded_sub_le_half scaling.product_pos
    rw [productError]
    linarith

/-- Rounding never moves the product by just half of a share.  The multiple of the last place that
it rounds to would have to be an odd multiple of half of the count. -/
theorem two_mul_productError_ne (scaling : format.Scaling value count) :
    2 * format.productError value count ≠ count * format.lastPlace value := by
  intro half
  suffices exact : format.productError value count = 0 by
    rw [exact, mul_zero] at half
    exact scaling.share_pos.ne half
  rcases le_or_gt (format.lastExponent (value * count)) (format.lastExponent value) with
    coarse | fine
  · exact scaling.productError_of_le coarse
  · obtain ⟨places, positive, product⟩ := scaling.exists_product
    obtain ⟨shift, shifted⟩ := Int.eq_ofNat_of_zero_le (Int.sub_nonneg.mpr fine.le)
    have unit : 0 < format.lastPlace value := format.lastPlace_pos
    have place : format.lastPlace (value * count) = (2 ^ shift : Nat) * format.lastPlace value := by
      rw [lastPlace, lastPlace, Nat.cast_pow, Nat.cast_ofNat, ← zpow_natCast, ← shifted,
        ← zpow_add₀ (by norm_num), sub_add_cancel]
    obtain ⟨whole, nearest⟩ : ∃ whole : Nat, format.rounded (value * count) =
        (whole * 2 ^ shift : Nat) * format.lastPlace value := by
      refine ⟨nearestNat (value * count / format.lastPlace (value * count)), ?_⟩
      rw [rounded, Nat.cast_mul, mul_assoc (Nat.cast _) (Nat.cast _), ← place]
    have counts : 2 * |((whole * 2 ^ shift : Nat) : Int) - (places * count : Nat)| = count := by
      rw [productError, nearest, product, ← sub_mul, abs_mul, abs_of_pos unit, ← mul_assoc] at half
      exact_mod_cast mul_right_cancel₀ unit.ne' half
    obtain ⟨quotient, divided⟩ := two_pow_dvd_of_half positive counts
    have multiple : value * count =
        (places * quotient : Nat) * 2 ^ format.lastExponent (value * count) := by
      rw [← lastPlace, place, product, divided]
      push_cast
      ring
    rw [productError_eq_zero_iff, multiple]
    apply rounded_of_lastExponent_le
    rw [← multiple]

/-- The product with a power of two has the places of the count. -/
theorem productError_of_power (scaling : format.Scaling value count)
    (power : value = (Nat.pow 2 (format.precision - 1) : Nat) * format.lastPlace value) :
    format.productError value count = 0 := by
  obtain ⟨places, form, -, few, -⟩ := exists_places scaling.cast_count_pos scaling.count_kept
  have low : -(format.precision - 1 : Int) ≤ format.lastExponent count := by
    apply format.le_lastExponent_of_le scaling.cast_count_pos
    rw [add_neg_cancel, zpow_zero]
    exact_mod_cast scaling.count_pos
  have least : format.least ≤ format.lastExponent value := le_max_left _ _
  have product : value * count = places *
      2 ^ (format.precision - 1 + format.lastExponent value + format.lastExponent count) := by
    rw [zpow_add₀ (by norm_num), zpow_add₀ (by norm_num), ← Nat.cast_pred format.precision_pos,
      ← cast_two_pow, ← lastPlace, ← lastPlace, ← power, mul_left_comm, ← form]
  rw [productError_eq_zero_iff, product]
  exact rounded_of_places few (by omega)

theorem abs_scaledBack_sub (scaling : format.Scaling value count) :
    |format.scaledBack value count - value| * count = format.productError value count := by
  have counted := scaling.cast_count_pos
  rw [← abs_of_pos counted, ← abs_mul, sub_mul, scaledBack, div_mul_cancel₀ _ counted.ne',
    productError]

theorem abs_scaledBack_sub_lt (scaling : format.Scaling value count) :
    |format.scaledBack value count - value| < format.lastPlace value := by
  rw [← mul_lt_mul_iff_left₀ scaling.cast_count_pos, scaling.abs_scaledBack_sub, mul_comm]
  exact scaling.productError_lt

theorem scaledBack_pos (scaling : format.Scaling value count) :
    0 < format.scaledBack value count := by
  obtain ⟨places, form, positive, -⟩ := exists_places scaling.value_pos scaling.value_kept
  have unit : 0 < format.lastPlace value := format.lastPlace_pos
  have one : (1 : Rat) ≤ places := by exact_mod_cast positive
  have least := mul_le_mul_of_nonneg_right one unit.le
  rw [one_mul, ← form] at least
  linarith [(abs_lt.mp scaling.abs_scaledBack_sub_lt).1]

/-- The quotient has the last place of the number. -/
theorem lastPlace_scaledBack (scaling : format.Scaling value count) :
    format.lastPlace (format.scaledBack value count) = format.lastPlace value := by
  suffices same : format.lastExponent (format.scaledBack value count) =
      format.lastExponent value by rw [lastPlace, same, ← lastPlace]
  obtain ⟨places, form, positive, few, full⟩ :=
    exists_places scaling.value_pos scaling.value_kept
  have unit : 0 < format.lastPlace value := format.lastPlace_pos
  obtain ⟨lower, upper⟩ := abs_lt.mp scaling.abs_scaledBack_sub_lt
  apply le_antisymm
  · apply format.lastExponent_le_of_lt scaling.scaledBack_pos (le_max_left _ _)
    rw [zpow_add₀ (by norm_num), ← cast_two_pow]
    calc
      format.scaledBack value count < (places + 1 : Nat) * format.lastPlace value := by
        push_cast
        linarith
      _ ≤ (Nat.pow 2 format.precision : Nat) * format.lastPlace value :=
        mul_le_mul_of_nonneg_right (Nat.cast_le.mpr few) unit.le
  · rcases full with full | least
    · rcases full.eq_or_lt with top | higher
      · -- Below a power of two the places are finer, but there the product is exact.
        have exact := scaling.productError_of_power (by rw [top, ← form])
        have same := scaling.abs_scaledBack_sub
        rw [exact, mul_eq_zero, or_iff_left scaling.cast_count_pos.ne', abs_eq_zero,
          sub_eq_zero] at same
        rw [same]
      · apply format.le_lastExponent_of_le scaling.scaledBack_pos
        rw [← Nat.cast_pred format.precision_pos, zpow_add₀ (by norm_num), ← cast_two_pow]
        calc
          (Nat.pow 2 (format.precision - 1) : Nat) * format.lastPlace value
              ≤ (places - 1 : Nat) * format.lastPlace value :=
            mul_le_mul_of_nonneg_right (Nat.cast_le.mpr (Nat.le_sub_one_of_lt higher)) unit.le
          _ ≤ format.scaledBack value count := by
            rw [Nat.cast_pred positive]
            linarith
    · rw [least]
      exact le_max_left _ _

theorem abs_rounded_scaledBack_sub_le_half (scaling : format.Scaling value count) :
    |format.rounded (format.scaledBack value count) - format.scaledBack value count| ≤
      format.lastPlace value / 2 := by
  rw [← scaling.lastPlace_scaledBack]
  exact format.abs_rounded_sub_le_half scaling.scaledBack_pos

theorem abs_rounded_scaledBack_sub_le_add (scaling : format.Scaling value count) :
    |format.rounded (format.scaledBack value count) - value| ≤
      format.lastPlace value / 2 + |format.scaledBack value count - value| :=
  (abs_sub_le _ (format.scaledBack value count) _).trans
    (add_le_add_left scaling.abs_rounded_scaledBack_sub_le_half _)

/-- The rounded quotient is whole last places away from the number. -/
theorem exists_steps (scaling : format.Scaling value count) {bound : Nat}
    (near : |format.rounded (format.scaledBack value count) - value| <
      bound * format.lastPlace value) :
    ∃ steps : Int, |steps| < bound ∧
      format.rounded (format.scaledBack value count) - value = steps * format.lastPlace value := by
  obtain ⟨places, form, -⟩ := exists_places scaling.value_pos scaling.value_kept
  have unit : 0 < format.lastPlace value := format.lastPlace_pos
  have apart : format.rounded (format.scaledBack value count) - value =
      ((nearestNat (format.scaledBack value count / format.lastPlace value) - places : Int) : Rat) *
        format.lastPlace value := by
    rw [rounded, scaling.lastPlace_scaledBack]
    push_cast
    rw [sub_mul, ← form]
  refine ⟨_, ?_, apart⟩
  rw [apart, abs_mul, abs_of_pos unit] at near
  exact_mod_cast lt_of_mul_lt_mul_right near unit.le

theorem rounded_scaledBack_eq_iff (scaling : format.Scaling value count) :
    format.rounded (format.scaledBack value count) = value ↔
      2 * format.productError value count < count * format.lastPlace value := by
  have counted := scaling.cast_count_pos
  have error := scaling.abs_scaledBack_sub
  constructor
  · intro same
    have half := scaling.abs_rounded_scaledBack_sub_le_half
    rw [same, abs_sub_comm] at half
    apply lt_of_le_of_ne _ scaling.two_mul_productError_ne
    rw [← error]
    linarith [mul_le_mul_of_nonneg_right half counted.le]
  · intro small
    have close : |format.scaledBack value count - value| < format.lastPlace value / 2 := by
      rw [← mul_lt_mul_iff_left₀ counted, error]
      linarith
    have near : |format.rounded (format.scaledBack value count) - value| <
        (1 : Nat) * format.lastPlace value := by
      rw [Nat.cast_one]
      linarith [scaling.abs_rounded_scaledBack_sub_le_add]
    obtain ⟨steps, none, apart⟩ := scaling.exists_steps near
    rw [Int.abs_lt_one_iff.mp none, Int.cast_zero, zero_mul, sub_eq_zero] at apart
    exact apart

theorem abs_rounded_scaledBack_sub_le (scaling : format.Scaling value count) :
    |format.rounded (format.scaledBack value count) - value| ≤ format.lastPlace value := by
  have unit : 0 < format.lastPlace value := format.lastPlace_pos
  have near : |format.rounded (format.scaledBack value count) - value| <
      (2 : Nat) * format.lastPlace value := by
    rw [Nat.cast_two]
    linarith [scaling.abs_scaledBack_sub_lt, scaling.abs_rounded_scaledBack_sub_le_add]
  obtain ⟨steps, few, apart⟩ := scaling.exists_steps near
  have one : |(steps : Rat)| ≤ 1 := by exact_mod_cast Int.lt_add_one_iff.mp few
  rw [apart, abs_mul, abs_of_pos unit]
  exact mul_le_of_le_one_left unit.le one

end Scaling

end Format

namespace Floating

variable {format : Format} {number count : Floating format} {value : Rat} {whole : Nat}

theorem scaling_of_value? (known : number.value? = some value) (positive : 0 < value)
    (counted : count.value? = some (whole : Rat)) (some_counted : 0 < whole) :
    format.Scaling value whole where
  value_pos := positive
  value_kept := rounded_of_value? known positive
  count_pos := some_counted
  count_kept := rounded_of_value? counted (Nat.cast_pos.mpr some_counted)

/-- While the product is finite, the rounded quotient is. -/
theorem value?_mul_div (scaling : format.Scaling value whole)
    (known : number.value? = some value) (counted : count.value? = some (whole : Rat))
    (finite : (number * count).isFinite = true) :
    (number * count / count).value? = some (format.rounded (format.scaledBack value whole)) := by
  have product : (number * count).value? = some (format.rounded (value * whole)) := by
    rw [mul_eq_ofRat known counted] at finite ⊢
    exact value?_ofRat scaling.product_pos.le finite
  have one : (1 : Rat) ≤ whole := by exact_mod_cast scaling.count_pos
  have bound : format.scaledBack value whole ≤ format.greatestNumber :=
    (div_le_self format.rounded_nonneg one).trans (value?_le_greatestNumber product)
  rw [div_eq_ofRat product counted scaling.cast_count_pos.ne']
  exact value?_ofRat scaling.scaledBack_pos.le (isFinite_ofRat scaling.scaledBack_pos.le bound)

/-- A product that is not finite stays infinite under the quotient. -/
theorem mul_div_of_overflow (scaling : format.Scaling value whole)
    (known : number.value? = some value) (counted : count.value? = some (whole : Rat))
    (overflow : (number * count).isFinite = false) : number * count / count = infinite false := by
  obtain ⟨significand, exponent, canonical, rfl, -⟩ :=
    exists_canonical_of_pos counted scaling.cast_count_pos
  rw [mul_eq_ofRat known counted] at overflow ⊢
  rw [ofRat_eq_infinite scaling.product_pos.le overflow]
  rfl

theorem mul_div_eq_iff (scaling : format.Scaling value whole)
    (known : number.value? = some value) (counted : count.value? = some (whole : Rat))
    (finite : (number * count).isFinite = true) :
    number * count / count = number ↔
      2 * format.productError value whole < whole * format.lastPlace value := by
  have result := value?_mul_div scaling known counted finite
  rw [← scaling.rounded_scaledBack_eq_iff]
  constructor
  · intro same
    rw [same, known] at result
    exact (Option.some.inj result).symm
  · intro same
    rw [same] at result
    exact eq_of_value?_eq result known scaling.value_pos

end Floating

end ChessDiagram
