import ChessDiagram.Proofs.Notation.Spellings
import ChessDiagram.Proofs.Notation.Values

/-!
# Written sizes

A size is written with digits, a gap that may be empty, and the spelling of a unit in any ASCII
case.  A value is read as a size exactly when it is written in this way with a number below
`2 ^ 32`, leading zeros aside, and then as this number of this unit.  No value is written in two
ways: no digit and no gap goes on into a unit.
-/

namespace ChessDiagram

/-- A text of digits, a gap that may be empty, and the spelling of a unit in any ASCII case. -/
structure WrittenSize where
  digits : Text
  gap : Text
  word : Text
  unit : LengthUnit
  digits_ne_nil : digits ≠ []
  isDigit : ∀ digit ∈ digits, Text.isDigit digit = true
  gapOnly : Text.GapOnly gap
  agreeing : Text.agrees unit.spelling word = true

namespace WrittenSize

def text (written : WrittenSize) : Text :=
  written.digits ++ (written.gap ++ written.word)

/-- The number with the written digits in base ten. -/
def number (written : WrittenSize) : Nat :=
  Nat.ofDigits 10 (written.digits.reverse.map Text.digitValue)

theorem class_of_mem_word {written : WrittenSize} {character : Char}
    (member : character ∈ written.word) :
    Notation.isUnitChar character = true ∧ Text.isDigit character = false ∧
      Text.isBlank character = false := by
  let among (character : Char) : Bool :=
    Notation.isUnitChar character && !Text.isDigit character && !Text.isBlank character
  have blind : Text.CaseBlind among := .of_capitals (by decide)
  have inSpelling : ∀ letter ∈ written.unit.spelling, among letter = true := by
    intro letter inside
    simp [among, LengthUnit.class_of_mem_spelling inside]
  have inWord := blind.forall_of_lower_eq (Text.agrees_iff.mp written.agreeing).symm inSpelling
  simpa [among, and_assoc] using inWord character member

theorem stopsAt_isDigit (written : WrittenSize) :
    Text.StopsAt Text.isDigit (written.gap ++ written.word) := by
  intro character first
  rcases List.mem_append.mp (List.mem_of_head? first) with inGap | inWord
  · have blank := Text.isBlank_of_isGap (written.gapOnly character inGap)
    rw [Bool.eq_false_iff]
    intro digit
    rw [Text.not_isBlank_of_isDigit digit] at blank
    cases blank
  · exact (class_of_mem_word inWord).2.1

theorem takeWhile_text (written : WrittenSize) :
    written.text.takeWhile Text.isDigit = written.digits :=
  Text.takeWhile_run written.isDigit written.stopsAt_isDigit

theorem dropWhile_text (written : WrittenSize) :
    written.text.dropWhile Text.isDigit = written.gap ++ written.word :=
  Text.dropWhile_run written.isDigit written.stopsAt_isDigit

theorem skipGap_behind (written : WrittenSize) :
    Text.skipGap (written.gap ++ written.word) = written.word := by
  rw [Text.skipGap_append written.gapOnly]
  apply Text.skipGap_of_stopsAt
  intro character first
  exact Text.not_isGap_of_not_isBlank (class_of_mem_word (List.mem_of_head? first)).2.2

theorem skipGap_text (written : WrittenSize) : Text.skipGap written.text = written.text := by
  apply Text.skipGap_of_stopsAt
  apply Text.StopsAt.append written.digits_ne_nil
  intro character first
  exact Text.not_isGap_of_not_isBlank
    (Text.not_isBlank_of_isDigit (written.isDigit character (List.mem_of_head? first)))

/-- No text is written in two ways. -/
theorem text_injective : Function.Injective text := by
  intro written other same
  have digits : written.digits = other.digits := by
    rw [← takeWhile_text, same, takeWhile_text]
  have behind : written.gap ++ written.word = other.gap ++ other.word := by
    rw [← dropWhile_text, same, dropWhile_text]
  have word : written.word = other.word := by
    rw [← skipGap_behind, behind, skipGap_behind]
  have gap : written.gap = other.gap := by
    rw [word] at behind
    exact List.append_cancel_right behind
  have unit : written.unit = other.unit := by
    have found := LengthUnit.ofSpelling?_eq_some_iff.mpr written.agreeing
    rw [word, LengthUnit.ofSpelling?_eq_some_iff.mpr other.agreeing] at found
    exact (Option.some.inj found).symm
  cases written
  cases other
  simp_all

end WrittenSize

namespace Notation

theorem size?_writtenSize {written : WrittenSize} (small : written.number < UInt32.size) :
    size? written.text =
      some { magnitude := UInt32.ofNatLT written.number small, unit := written.unit } := by
  have number : Text.decimalValue written.digits = written.number :=
    Text.decimalValue_eq_ofDigits written.digits
  have isUnitChar : ∀ character ∈ written.word, isUnitChar character = true :=
    fun _ member => (WrittenSize.class_of_mem_word member).1
  have word : written.word.takeWhile Notation.isUnitChar = written.word :=
    List.takeWhile_eq_self_iff.mpr isUnitChar
  have nothing : written.word.dropWhile Notation.isUnitChar = [] :=
    List.dropWhile_eq_nil_iff.mpr isUnitChar
  have readable : written.digits ≠ [] ∧ Text.skipGap ([] : Text) = [] :=
    ⟨written.digits_ne_nil, rfl⟩
  simp only [size?, written.skipGap_text, written.takeWhile_text, written.dropWhile_text,
    written.skipGap_behind, word, nothing, if_pos readable, number, dif_pos small,
    LengthUnit.ofSpelling?_eq_some_iff.mpr written.agreeing, Option.map_some]

end Notation

/-- The text of a size, with no leading zeros, no gap and the unit in lower case. -/
def BoardSize.written (size : BoardSize) : WrittenSize where
  digits := Text.decimal size.magnitude.toNat
  gap := []
  word := size.unit.spelling
  unit := size.unit
  digits_ne_nil := Text.decimal_ne_nil _
  isDigit := Text.isDigit_of_mem_decimal _
  gapOnly := by simp [Text.GapOnly]
  agreeing := by simp [Text.agrees]

namespace Notation

/-- The text of a size is read as that size, at every magnitude. -/
theorem size?_text (size : BoardSize) : size? size.text = some size := by
  have number : size.written.number = size.magnitude.toNat :=
    (Text.decimalValue_eq_ofDigits _).symm.trans (Text.decimalValue_decimal _)
  have small : size.written.number < UInt32.size := number ▸ size.magnitude.toNat_lt_size
  have read : size? size.text = _ := size?_writtenSize small
  simp only [read, number, UInt32.ofNatLT_toNat]
  rfl

/-- What is read as a size, without gaps at its ends, is written as this size. -/
theorem exists_writtenSize {text : Text} {size : BoardSize} (start : Text.StopsAt Text.isGap text)
    (last : ∀ character ∈ text.getLast?, Text.isGap character = false)
    (read : size? text = some size) :
    ∃ written : WrittenSize, text = written.text ∧
      size.magnitude.toNat = written.number ∧ size.unit = written.unit := by
  simp only [size?, Text.skipGap_of_stopsAt start] at read
  obtain ⟨⟨digits_ne_nil, nothing⟩, read⟩ := Option.ite_none_right_eq_some.mp read
  split at read
  case isFalse => cases read
  case isTrue small =>
    obtain ⟨unit, found, rfl⟩ := Option.map_eq_some_iff.mp read
    obtain ⟨gap, gapOnly, behind⟩ :=
      Text.exists_gap_append_skipGap (text.dropWhile Text.isDigit)
    generalize Text.skipGap (text.dropWhile Text.isDigit) = spelled at nothing found behind
    have whole : text = text.takeWhile Text.isDigit ++ (gap ++
        (spelled.takeWhile isUnitChar ++ spelled.dropWhile isUnitChar)) := by
      rw [List.takeWhile_append_dropWhile, ← behind, List.takeWhile_append_dropWhile]
    have noRest : spelled.dropWhile isUnitChar = [] := by
      rw [whole, ← List.append_assoc, ← List.append_assoc] at last
      exact Text.eq_nil_of_getLast? (Text.skipGap_eq_nil_iff.mp nothing) last
    rw [noRest, List.append_nil] at whole
    refine ⟨⟨text.takeWhile Text.isDigit, gap, spelled.takeWhile isUnitChar, unit, digits_ne_nil,
      fun _ member => List.mem_takeWhile_imp member, gapOnly,
      LengthUnit.ofSpelling?_eq_some_iff.mp found⟩, whole, ?_, rfl⟩
    rw [UInt32.toNat_ofNatLT]
    exact Text.decimalValue_eq_ofDigits _

/-- A size is read as it is written, and all of it is the default where it is not written with a
number below `2 ^ 32`.  What is written in digits, gap and unit is determined by the text. -/
theorem size_writtenSize :
    (∀ (source : Text) (written : WrittenSize),
      value source Keyword.size.word = written.text → written.number < Nat.pow 2 32 →
      (size source).magnitude.toNat = written.number ∧ (size source).unit = written.unit) ∧
    (∀ source : Text,
      (∀ written : WrittenSize, value source Keyword.size.word = written.text →
        Nat.pow 2 32 ≤ written.number) →
      size source = { magnitude := 50, unit := .percent }) ∧
    ∀ written other : WrittenSize, written.text = other.text → written = other := by
  refine ⟨?accepted, ?refused, fun _ _ same => WrittenSize.text_injective same⟩
  case accepted =>
    intro source written own small
    rw [size, own, size?_writtenSize small, Option.getD_some]
    exact ⟨UInt32.toNat_ofNatLT, rfl⟩
  case refused =>
    intro source large
    have unread : size? (value source Keyword.size.word) = none := by
      rw [Option.eq_none_iff_forall_ne_some]
      intro size read
      obtain ⟨written, own, number, -⟩ := exists_writtenSize (stopsAt_value _ _)
        (fun character final => Text.not_isGap_of_not_isBlank (getLast?_value _ _ character final))
        read
      have below : size.magnitude.toNat < Nat.pow 2 32 := size.magnitude.toNat_lt
      rw [number] at below
      exact absurd (large written own) (Nat.not_le.mpr below)
    rw [size, unread, Option.getD_none]

/-- Leading zeros, a gap and capitals at the greatest number, and the number after it. -/
theorem size_writtenSize_limit :
    (size "Size  0004294967295 \tVMiN \r\nsize 1px").magnitude.toNat = 4294967295 ∧
      (size "Size  0004294967295 \tVMiN \r\nsize 1px").unit = .vmin ∧
      size "size 4294967296px" = { magnitude := 50, unit := .percent } := by
  obtain ⟨accepted, refused, unique⟩ := size_writtenSize
  let greatest : WrittenSize :=
    ⟨"0004294967295", " \t", "VMiN", .vmin, by decide +kernel, by simp [Text.isDigit],
      by decide +kernel, by decide +kernel⟩
  let tooGreat : WrittenSize :=
    ⟨"4294967296", [], "px", .px, by decide +kernel, by simp [Text.isDigit],
      by decide +kernel, by decide +kernel⟩
  have number : greatest.number = 4294967295 := by decide +kernel
  have read := accepted "Size  0004294967295 \tVMiN \r\nsize 1px" greatest (by decide +kernel)
    (by decide +kernel)
  refine ⟨read.1.trans number, read.2, refused _ ?_⟩
  intro written own
  have same : written = tooGreat := unique written tooGreat (own.symm.trans (by decide +kernel))
  rw [same]
  decide +kernel

end Notation

end ChessDiagram
