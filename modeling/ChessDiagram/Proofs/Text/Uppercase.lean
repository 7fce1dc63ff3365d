import ChessDiagram.Text.Blank
import ChessDiagram.Text.Uppercase
import Mathlib.Data.Nat.Bitwise

/-!
# What upper case leaves alone

Upper case moves the codes of its two tables.  None of these is the code of a blank, and none is the
first code of an image, so that blanks and the first characters of images are their own upper case.
No image has a blank in it.

The tables move more than a thousand codes.  A set of codes is written as the bits of one number, so
that two sets are compared in a single step.
-/

namespace ChessDiagram.Text

/-- The number whose bits are the given codes. -/
def codeSet : List Nat → Nat
  | [] => 0
  | code :: codes => 1 <<< code ||| codeSet codes

theorem testBit_codeSet {codes : List Nat} {code : Nat} :
    (codeSet codes).testBit code = true ↔ code ∈ codes := by
  induction codes with
  | nil => simp [codeSet]
  | cons first codes induction =>
      rw [codeSet, Nat.testBit_or, Bool.or_eq_true, induction, Nat.one_shiftLeft,
        Nat.testBit_two_pow, decide_eq_true_iff, List.mem_cons, eq_comm]

theorem notMem_of_codeSet {codes others : List Nat}
    (apart : codeSet codes &&& codeSet others = 0) {code : Nat} (member : code ∈ codes) :
    code ∉ others := by
  intro inOthers
  have both : (codeSet codes &&& codeSet others).testBit code = true := by
    rw [Nat.testBit_and, testBit_codeSet.mpr member, testBit_codeSet.mpr inOthers, Bool.and_self]
  rw [apart, Nat.zero_testBit] at both
  cases both

def blankCodes : List Nat :=
  List.range' 0x9 5 ++ [0x20, 0x85, 0xA0, 0x1680] ++ List.range' 0x2000 11 ++
    [0x2028, 0x2029, 0x202F, 0x205F, 0x3000]

theorem mem_blankCodes_iff {character : Char} :
    character.toNat ∈ blankCodes ↔ isBlank character = true := by
  simp only [blankCodes, isBlank, List.mem_append, List.mem_range'_1, List.mem_cons,
    List.not_mem_nil, or_false, Bool.or_eq_true, Bool.and_eq_true, decide_eq_true_eq, beq_iff_eq]
  omega

namespace CaseRange

def codes (range : CaseRange) : List Nat :=
  List.range' range.first ((range.last - range.first) / range.step + 1) range.step

theorem mem_codes {range : CaseRange} {code : Nat} (covered : range.covers code = true) :
    code ∈ range.codes := by
  simp only [covers, Bool.and_eq_true, decide_eq_true_eq, beq_iff_eq] at covered
  obtain ⟨⟨above, below⟩, onStep⟩ := covered
  refine List.mem_range'.mpr ⟨(code - range.first) / range.step, ?_, ?_⟩
  · exact Nat.lt_succ_of_le (Nat.div_le_div_right (Nat.sub_le_sub_right below _))
  · rw [Nat.mul_div_cancel' (Nat.dvd_of_mod_eq_zero onStep)]
    omega

end CaseRange

def movedCodes : List Nat :=
  upperExpansions.map Prod.fst ++ upperRanges.flatMap CaseRange.codes

def upperImages : List (List Nat) :=
  upperExpansions.map Prod.snd ++
    upperRanges.flatMap fun range => range.codes.map fun code => [range.image code]

theorem upperChar_of_notMem {character : Char} (unmoved : character.toNat ∉ movedCodes) :
    upperChar character = [character] := by
  obtain ⟨noExpansion, noRange⟩ := not_or.mp (List.mem_append.not.mp unmoved)
  have notListed : upperExpansions.lookup character.toNat = none := by
    rw [List.lookup_eq_none_iff]
    intro expansion member
    rw [bne_iff_ne]
    intro same
    exact noExpansion (List.mem_map.mpr ⟨expansion, member, same.symm⟩)
  have notCovered : upperRanges.find? (·.covers character.toNat) = none := by
    rw [List.find?_eq_none]
    intro range member covered
    exact noRange (List.mem_flatMap.mpr ⟨range, member, CaseRange.mem_codes covered⟩)
  rw [upperChar, notListed, notCovered]

theorem upperChar_eq_or (character : Char) :
    upperChar character = [character] ∨
      ∃ image ∈ upperImages, upperChar character = image.map Char.ofNat := by
  unfold upperChar
  split
  case h_1 codes found =>
    right
    have listed : (character.toNat, codes) ∈ upperExpansions := by
      obtain ⟨before, after, whole, -⟩ := List.lookup_eq_some_iff.mp found
      rw [whole]
      exact List.mem_append_right _ List.mem_cons_self
    exact ⟨codes, List.mem_append_left _ (List.mem_map.mpr ⟨_, listed, rfl⟩), rfl⟩
  case h_2 =>
    split
    case h_1 range found =>
      right
      have covered : range.covers character.toNat = true :=
        List.find?_some (p := fun range : CaseRange => range.covers character.toNat) found
      refine ⟨[range.image character.toNat], List.mem_append_right _ ?_, rfl⟩
      exact List.mem_flatMap.mpr ⟨range, List.mem_of_find?_eq_some found,
        List.mem_map.mpr ⟨_, CaseRange.mem_codes covered, rfl⟩⟩
    case h_2 => exact .inl rfl

private theorem upperImages_valid :
    ∀ image ∈ upperImages, image ≠ [] ∧ ∀ code ∈ image, code.isValidChar := by
  decide +kernel

private theorem toNat_ofNat_of_mem {image : List Nat} (listed : image ∈ upperImages) {code : Nat}
    (member : code ∈ image) : (Char.ofNat code).toNat = code := by
  have valid := (upperImages_valid image listed).2 code member
  have whole : Char.ofNat code = Char.ofNatAux code valid := dif_pos valid
  rw [whole]
  rfl

theorem upperChar_ne_nil (character : Char) : upperChar character ≠ [] := by
  rcases upperChar_eq_or character with same | ⟨image, listed, same⟩
  · simp [same]
  · rw [same]
    exact mt List.map_eq_nil_iff.mp (upperImages_valid image listed).1

theorem upperChar_of_isBlank {character : Char} (blank : isBlank character = true) :
    upperChar character = [character] := by
  have apart : codeSet blankCodes &&& codeSet movedCodes = 0 := by
    decide +kernel
  exact upperChar_of_notMem (notMem_of_codeSet apart (mem_blankCodes_iff.mpr blank))

theorem isBlank_of_mem_upperChar {character upper : Char} (member : upper ∈ upperChar character)
    (noBlank : isBlank character = false) : isBlank upper = false := by
  have apart : codeSet upperImages.flatten &&& codeSet blankCodes = 0 := by
    decide +kernel
  rcases upperChar_eq_or character with same | ⟨image, listed, same⟩
  · rw [same, List.mem_singleton] at member
    rw [member, noBlank]
  · rw [same] at member
    obtain ⟨code, inImage, rfl⟩ := List.mem_map.mp member
    have outside := notMem_of_codeSet apart (List.mem_flatten.mpr ⟨image, listed, inImage⟩)
    rw [← toNat_ofNat_of_mem listed inImage, mem_blankCodes_iff] at outside
    exact Bool.eq_false_iff.mpr outside

/-- The first character of an upper-case form is its own upper case. -/
theorem upperChar_of_head? {character first : Char} (starts : first ∈ (upperChar character).head?) :
    upperChar first = [first] := by
  have apart : codeSet (upperImages.filterMap List.head?) &&& codeSet movedCodes = 0 := by
    decide +kernel
  rcases upperChar_eq_or character with same | ⟨image, listed, same⟩
  · rw [same] at starts
    rw [← Option.some.inj starts, same]
  · rw [same, List.head?_map] at starts
    obtain ⟨code, isFirst, rfl⟩ := Option.map_eq_some_iff.mp starts
    have outside := notMem_of_codeSet apart (List.mem_filterMap.mpr ⟨image, listed, isFirst⟩)
    rw [← toNat_ofNat_of_mem listed (List.mem_of_head? isFirst)] at outside
    exact upperChar_of_notMem outside

end ChessDiagram.Text
