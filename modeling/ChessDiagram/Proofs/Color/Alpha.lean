import ChessDiagram.Color.Reading
import ChessDiagram.Proofs.Number.Arithmetic

/-!
# The alpha of a colour that is read

A number that is read is never without a value in the order of numbers, so that its clamped form
lies between the bounds.  The alpha of every colour that is read is therefore finite.
-/

namespace ChessDiagram

namespace Floating

variable {format : Format}

theorem ofParts_ne_nan (negative : Bool) (significand : Nat) (exponent : Int) :
    (ofParts negative significand exponent : Floating format) ≠ nan := by
  unfold ofParts
  split <;> rintro ⟨⟩

theorem round_ne_nan (negative : Bool) (magnitude : Rat) :
    (round negative magnitude : Floating format) ≠ nan := by
  unfold round
  split
  · rintro ⟨⟩
  · simp only
    split <;> exact ofParts_ne_nan _ _ _

theorem ofRat_ne_nan (zeroSign : Bool) (value : Rat) :
    (ofRat zeroSign value : Floating format) ≠ nan := by
  unfold ofRat
  split
  · rintro ⟨⟩
  · split <;> exact round_ne_nan _ _

theorem ofDecimal_ne_nan (negative : Bool) (digits : Nat) (exponent : Int) :
    (ofDecimal negative digits exponent : Floating format) ≠ nan := by
  unfold ofDecimal
  simp only
  split
  · rintro ⟨⟩
  · split
    · rintro ⟨⟩
    · exact round_ne_nan _ _

/-- Only infinities and zeros have no product. -/
theorem mul_ne_nan {number factor : Floating format} {value : Rat} (isNumber : number ≠ nan)
    (finite : factor.value? = some value) (nonzero : value ≠ 0) : number * factor ≠ nan := by
  cases factor with
  | nan => cases finite
  | infinite negative => cases finite
  | finite negative significand exponent canonical =>
      cases number with
      | nan => exact absurd rfl isNumber
      | finite => exact ofRat_ne_nan _ _
      | infinite other =>
          have kept : significand ≠ 0 := by
            rintro rfl
            apply nonzero
            rw [← Option.some.inj finite]
            simp
          show (if significand = 0 then nan else infinite _) ≠ nan
          rw [if_neg kept]
          rintro ⟨⟩

/-- Numbers up to one have a place in every format that has a one. -/
theorem isFinite_convert {other : Format} {number : Floating format} {value : Rat}
    (known : number.value? = some value) (nonneg : 0 ≤ value) (upper : value ≤ 1)
    (one : 1 ≤ other.greatestNumber) : (number.convert : Floating other).isFinite = true := by
  cases number with
  | nan => cases known
  | infinite negative => cases known
  | finite negative significand exponent canonical =>
      apply isFinite_round
      have magnitude := Option.some.inj known
      split at magnitude <;> linarith

end Floating

namespace Color

namespace Reading

variable {α β : Type} {first : Reading α} {next : α → Reading β} {yielded : α → Prop}
  {wanted : β → Prop}

/-- What is read has the property, from whatever text. -/
structure Yields (reading : Reading α) (wanted : α → Prop) : Prop where
  of_ok : ∀ text result rest, reading text = .ok (result, rest) → wanted result

theorem yields_pure {result : β} (holds : wanted result) :
    (pure result : Reading β).Yields wanted := by
  constructor
  rintro text _ rest ⟨⟩
  exact holds

theorem yields_throw (fault : Fault) : (throw fault : Reading β).Yields wanted := by
  constructor
  rintro text result rest ⟨⟩

theorem Yields.bind (before : first.Yields yielded)
    (after : ∀ result, yielded result → (next result).Yields wanted) :
    (first >>= next).Yields wanted := by
  constructor
  intro text result rest read
  simp only [Bind.bind, StateT.bind, Except.bind] at read
  split at read
  · cases read
  · rename_i outcome found
    exact (after _ (before.of_ok _ _ _ found)).of_ok _ _ _ read

theorem yields_bind (after : ∀ result, (next result).Yields wanted) :
    (first >>= next).Yields wanted :=
  Yields.bind ⟨fun _ _ _ _ => trivial⟩ fun result _ => after result

end Reading

theorem number?_ne_nan {text rest : Text} {number : Binary64}
    (read : number? text = some (number, rest)) : number ≠ .nan := by
  unfold number? at read
  simp only at read
  split at read
  · cases read
  · cases read
    exact Floating.ofDecimal_ne_nan _ _ _

/-- The number in a value, if it has one, is a number. -/
def Value.IsNumber : Value → Prop
  | .number amount => amount ≠ .nan
  | .percentage amount => amount ≠ .nan
  | _ => True

theorem isNumber_of_value? {text rest : Text} {value : Value}
    (read : value? text = some (value, rest)) : value.IsNumber := by
  unfold value? at read
  split at read
  · rename_i number _ found
    cases read
    exact number?_ne_nan found
  · rename_i number _ _ found
    split at read
    · cases read
      trivial
    · cases read
      exact number?_ne_nan found
  · obtain ⟨⟨word, behind⟩, -, same⟩ := Option.map_eq_some_iff.mp read
    cases same
    trivial

namespace Reading

theorem yields_value :
    value.Yields fun found => ∀ value, found = some value → value.IsNumber := by
  constructor
  intro text result rest read
  unfold value at read
  split at read
  · rename_i found
    cases read
    rintro value ⟨⟩
    exact isNumber_of_value? found
  · cases read
    rintro value ⟨⟩

/-- A component is a number or missing. -/
theorem yields_component {factor percentFactor : Binary64} (plain : factor.isPositive = true)
    (percent : percentFactor.isPositive = true) :
    (component factor percentFactor).Yields
      fun component => ∀ number, component = some number → number ≠ .nan := by
  obtain ⟨factorValue, factorKnown, factorPos⟩ := Floating.isPositive_iff.mp plain
  obtain ⟨percentValue, percentKnown, percentPos⟩ := Floating.isPositive_iff.mp percent
  unfold component
  apply yields_value.bind
  intro value isNumber
  split
  · rename_i number
    apply yields_pure
    rintro product ⟨⟩
    exact Floating.mul_ne_nan (isNumber _ rfl) factorKnown factorPos.ne'
  · rename_i number
    apply yields_pure
    rintro product ⟨⟩
    exact Floating.mul_ne_nan (isNumber _ rfl) percentKnown percentPos.ne'
  · split
    · apply yields_pure
      rintro number ⟨⟩
    · exact yields_throw _
  · exact yields_throw _

/-- An alpha that is stored is finite. -/
theorem yields_alpha (commas : Bool) :
    (alpha commas).Yields fun component =>
      ∀ number, component = some number → (number.convert : Binary32).isFinite = true := by
  have zeroKnown : (Floating.ofNat 0 : Binary64).value? = some 0 := by decide +kernel
  have oneKnown : (Floating.ofNat 1 : Binary64).value? = some 1 := by decide +kernel
  have one : 1 ≤ Format.binary32.greatestNumber := by
    linarith [Floating.binary32_errors.2.2.1, Floating.binary32_errors.2.2.2.1]
  unfold alpha
  apply yields_bind
  intro marked
  split
  · refine Yields.bind (yields_component ?_ ?_) ?_
    · decide +kernel
    · decide +kernel
    · intro component isNumber
      apply yields_pure
      intro clamped found
      obtain ⟨number, read, rfl⟩ := Option.map_eq_some_iff.mp found
      obtain ⟨value, known, nonneg, upper⟩ :=
        Floating.exists_value?_clamp (isNumber number read) zeroKnown oneKnown (by norm_num)
      exact Floating.isFinite_convert known nonneg upper one
  · apply yields_pure
    intro number found
    obtain rfl := Option.some.inj found
    exact Floating.isFinite_convert oneKnown (by norm_num) le_rfl one

/-- The colours that are read have a finite alpha. -/
def StoresAlpha (arguments : Reading Coordinates) : Prop :=
  arguments.Yields fun coordinates => coordinates.alpha.number.isFinite = true

/-- How every function ends: with the alpha, which it stores. -/
private theorem storesAlpha_ending {commas : Bool} {stored : Option Binary64 → Coordinates}
    (keeps : ∀ component, (stored component).alpha = component.map Floating.convert) :
    StoresAlpha do
      let component ← alpha commas
      closing
      return stored component := by
  apply (yields_alpha commas).bind
  intro component finite
  apply yields_bind
  intro closed
  apply yields_pure
  rw [keeps component]
  cases component with
  | none => rfl
  | some number => exact finite number rfl

theorem storesAlpha_rgb : StoresAlpha rgb := by
  iterate 6 (apply yields_bind; intro)
  exact storesAlpha_ending fun _ => rfl

theorem storesAlpha_hsl : StoresAlpha hsl := by
  iterate 6 (apply yields_bind; intro)
  exact storesAlpha_ending fun _ => rfl

theorem storesAlpha_hwb : StoresAlpha hwb := by
  iterate 4 (apply yields_bind; intro)
  exact storesAlpha_ending fun _ => rfl

theorem storesAlpha_opponent (system : System) (limit percentFactor : Binary64) :
    StoresAlpha (opponent system limit percentFactor) := by
  iterate 4 (apply yields_bind; intro)
  exact storesAlpha_ending fun _ => rfl

theorem storesAlpha_polar (system : System) (limit percentFactor : Binary64) :
    StoresAlpha (polar system limit percentFactor) := by
  iterate 4 (apply yields_bind; intro)
  exact storesAlpha_ending fun _ => rfl

theorem storesAlpha_inSpace : StoresAlpha inSpace := by
  iterate 5 (apply yields_bind; intro)
  exact storesAlpha_ending fun _ => rfl

/-- Every function stores the alpha that it reads. -/
theorem storesAlpha_of_function? {word : Text} {arguments : Reading Coordinates}
    (found : function? word = some arguments) : StoresAlpha arguments := by
  unfold function? at found
  simp only at found
  split at found
  · exact Option.some.inj found ▸ storesAlpha_rgb
  split at found
  · exact Option.some.inj found ▸ storesAlpha_hsl
  split at found
  · exact Option.some.inj found ▸ storesAlpha_hwb
  split at found
  · exact Option.some.inj found ▸ storesAlpha_opponent _ _ _
  split at found
  · exact Option.some.inj found ▸ storesAlpha_polar _ _ _
  split at found
  · exact Option.some.inj found ▸ storesAlpha_opponent _ _ _
  split at found
  · exact Option.some.inj found ▸ storesAlpha_polar _ _ _
  split at found
  · exact Option.some.inj found ▸ storesAlpha_inSpace
  cases found

end Reading

theorem isFinite_number_byteComponent {byte : Nat} (small : byte < 256) :
    (byteComponent byte).number.isFinite = true := by
  have share : ((1 : Nat) / (255 : Nat) : Binary32).value? = some (8421505 / 2147483648) := by
    decide +kernel
  have word : byte ≤ Nat.pow 2 64 := small.le.trans (by decide)
  obtain ⟨value, known, lower, upper⟩ := Floating.exists_value?_cast word
  obtain ⟨-, -, one, greatest, -⟩ := Floating.binary32_errors
  have count : (byte : Rat) ≤ 255 := by exact_mod_cast Nat.le_of_lt_succ small
  have countNonneg : (0 : Rat) ≤ byte := Nat.cast_nonneg byte
  show ((byte : Binary32) * ((1 : Nat) / (255 : Nat))).isFinite = true
  rw [Floating.mul_eq_ofRat known share]
  apply Floating.isFinite_ofRat <;> linarith

theorem hexDigit?_lt {character : Char} {digit : Nat} (read : hexDigit? character = some digit) :
    digit < 16 := by
  unfold hexDigit? Text.isDigit Text.digitValue at read
  simp only [Bool.and_eq_true, decide_eq_true_eq, Char.le_def, UInt32.le_iff_toNat_le,
    Char.toNat, Char.reduceVal, UInt32.reduceToNat] at read
  split at read
  · cases read
    omega
  · split at read
    · cases read
      omega
    · split at read
      · cases read
        omega
      · cases read

theorem isFinite_alpha_of_ofHexDigits? {digits : List Nat} {color : Color}
    (small : ∀ digit ∈ digits, digit < 16) (read : ofHexDigits? digits = some color) :
    color.alpha.isFinite = true := by
  unfold ofHexDigits? at read
  split at read
  · cases read
    exact isFinite_number_byteComponent (by omega)
  · rename_i r g b a
    cases read
    have digit : a < 16 := small a (by simp)
    exact isFinite_number_byteComponent (by omega)
  · cases read
    exact isFinite_number_byteComponent (by omega)
  · rename_i r r' g g' b b' a a'
    cases read
    have first : a < 16 := small a (by simp)
    have second : a' < 16 := small a' (by simp)
    exact isFinite_number_byteComponent (by omega)
  · cases read

theorem isFinite_alpha_of_color {text rest : Text} {color : Color}
    (read : Reading.color text = .ok (color, rest)) : color.alpha.isFinite = true := by
  unfold Reading.color at read
  split at read
  · cases read
  · split at read
    · rename_i arguments found
      simp only [StateT.run_map] at read
      cases outcome : arguments.run _ with
      | error fault =>
          rw [outcome] at read
          cases read
      | ok result =>
          rw [outcome] at read
          obtain ⟨rfl, -⟩ := Prod.mk.inj (Except.ok.inj read)
          exact (Reading.storesAlpha_of_function? found).of_ok _ _ _ outcome
    · split at read
      · rename_i keyword _
        obtain ⟨rfl, -⟩ := Prod.mk.inj (Except.ok.inj read)
        show (Floating.ofNat (if keyword.isTransparent then 0 else 1) : Binary32).isFinite = true
        split <;> decide +kernel
      · cases read

theorem isFinite_alpha_of_take {text rest : Text} {color : Color}
    (read : take text = .ok (color, rest)) : color.alpha.isFinite = true := by
  unfold take at read
  split at read
  case h_1 digits =>
    simp only at read
    split at read
    · rename_i known
      obtain ⟨rfl, -⟩ := Prod.mk.inj (Except.ok.inj read)
      apply isFinite_alpha_of_ofHexDigits? _ known
      intro digit member
      obtain ⟨character, -, value⟩ := List.mem_filterMap.mp member
      exact hexDigit?_lt value
    · cases read
  case h_2 => exact isFinite_alpha_of_color read

/-- The alpha of a colour that is read is finite. -/
theorem isFinite_alpha_of_ofText {source : Text} {color : Color}
    (read : ofText source = .ok color) : color.alpha.isFinite = true := by
  unfold ofText at read
  split at read
  case h_1 taken found =>
    cases read
    exact isFinite_alpha_of_take found
  case h_2 => cases read
  case h_3 => cases read

end Color

end ChessDiagram
