import ChessDiagram.Notation.Setting
import ChessDiagram.Proofs.Text.Case
import ChessDiagram.Proofs.Text.Decimal

/-!
# Reading spellings back

Themes, alignments and length units are read from their own spellings in any ASCII case.  The
characters of a unit are neither digits nor blanks.
-/

namespace ChessDiagram

theorem Theme.ofSpelling?_spelling (theme : Theme) :
    Theme.ofSpelling? theme.spelling = some theme := by
  cases theme <;> decide

theorem Theme.ofSpelling?_lower (word : Text) :
    ofSpelling? (Text.lower word) = ofSpelling? word := by
  simp only [ofSpelling?, Text.agrees_lower]

theorem Align.ofSpelling?_spelling (align : Align) :
    Align.ofSpelling? align.spelling = some align := by
  cases align <;> decide

theorem Align.ofSpelling?_lower (word : Text) :
    ofSpelling? (Text.lower word) = ofSpelling? word := by
  simp only [ofSpelling?, Text.agrees_lower]

namespace LengthUnit

theorem ofSpelling?_spelling (unit : LengthUnit) :
    LengthUnit.ofSpelling? unit.spelling = some unit := by
  cases unit <;> decide

theorem ofSpelling?_lower (word : Text) :
    ofSpelling? (Text.lower word) = ofSpelling? word := by
  simp only [ofSpelling?, Text.agrees_lower]

theorem ofSpelling?_eq_some_iff {word : Text} {unit : LengthUnit} :
    ofSpelling? word = some unit ↔ Text.agrees unit.spelling word = true := by
  constructor
  · intro found
    unfold ofSpelling? at found
    exact List.find?_some (p := fun unit : LengthUnit => Text.agrees unit.spelling word) found
  · intro agreeing
    rw [← ofSpelling?_lower, ← Text.agrees_iff.mp agreeing, ofSpelling?_lower,
      ofSpelling?_spelling]

/-- The characters of a spelling carry on neither a number nor a blank that stands before them. -/
theorem class_of_mem_spelling {unit : LengthUnit} {character : Char}
    (member : character ∈ unit.spelling) :
    Notation.isUnitChar character = true ∧ Text.isDigit character = false ∧
      Text.isBlank character = false := by
  have all : (unit.spelling.all fun character => Notation.isUnitChar character &&
      !Text.isDigit character && !Text.isBlank character) = true := by
    cases unit <;> decide
  have classes := List.all_eq_true.mp all character member
  simpa [and_assoc] using classes

end LengthUnit

namespace Text

theorem not_isBlank_of_isDigit {character : Char} (digit : isDigit character = true) :
    isBlank character = false := by
  simp only [isDigit, Bool.and_eq_true, decide_eq_true_eq, Char.le_def, UInt32.le_iff_toNat_le]
    at digit
  change 48 ≤ character.toNat ∧ character.toNat ≤ 57 at digit
  simp only [isBlank, Bool.or_eq_false_iff, Bool.and_eq_false_iff, decide_eq_false_iff_not,
    beq_eq_false_iff_ne]
  omega

end Text

namespace BoardSize

theorem not_isBlank_of_mem_text {size : BoardSize} {character : Char}
    (member : character ∈ size.text) : Text.isBlank character = false := by
  rcases List.mem_append.mp member with digit | letter
  · exact Text.not_isBlank_of_isDigit (Text.isDigit_of_mem_decimal _ _ digit)
  · exact (LengthUnit.class_of_mem_spelling letter).2.2

end BoardSize

end ChessDiagram
