import ChessDiagram.Number.Shortest
import ChessDiagram.Proofs.Text.OneLine

/-!
# The characters of written numbers

A finite number is written with digits, a point and a sign.  Only what is not finite is written as a
word.
-/

namespace ChessDiagram

namespace Text

/-- The characters that finite numbers are written with. -/
def isNumeric (character : Char) : Bool :=
  isDigit character || character == '.' || character == '-'

theorem isNumeric_of_isDigit {character : Char} (digit : isDigit character = true) :
    isNumeric character = true := by
  simp [isNumeric, digit]

theorem isNumeric_of_mem_positional (digits : Nat) (exponent : Int) :
    ∀ character ∈ positional digits exponent, isNumeric character = true := by
  have decimals (number : Nat) : ∀ character ∈ decimal number, isNumeric character = true :=
    fun character member => isNumeric_of_isDigit (isDigit_of_mem_decimal number character member)
  have zeros (count : Nat) :
      ∀ character ∈ List.replicate count '0', isNumeric character = true := by
    intro character member
    rw [List.eq_of_mem_replicate member]
    decide
  unfold positional
  split
  · exact List.forall_mem_append.mpr ⟨decimals _, zeros _⟩
  · simp only
    rw [List.forall_mem_append]
    constructor
    · exact decimals _
    · split
      · simp
      · rw [List.forall_mem_cons]
        constructor
        · decide
        · intro character member
          rcases List.mem_append.mp ((prefix_dropEndWhile _ _).mem member) with padding | digit
          · exact zeros _ character padding
          · exact decimals _ character digit

end Text

namespace Floating

variable {format : Format}

theorem isNumeric_of_mem_text {number : Floating format} (finite : number.isFinite = true) :
    ∀ character ∈ number.text, Text.isNumeric character = true := by
  cases number with
  | nan => cases finite
  | infinite negative => cases finite
  | finite negative significand exponent canonical =>
      rw [text]
      simp only
      rw [List.forall_mem_append]
      constructor
      · cases negative <;> exact List.all_eq_true.mp (by decide)
      · exact Text.isNumeric_of_mem_positional _ _

/-- A number is written with the characters of finite numbers and of the words for all others. -/
theorem isNumeric_or_of_mem_text (number : Floating format) :
    ∀ character ∈ number.text,
      Text.isNumeric character = true ∨ Text.isLetter character = true := by
  intro character member
  cases number with
  | nan =>
      have letters : ("NaN" : Text).all Text.isLetter = true := by decide
      exact .inr (List.all_eq_true.mp letters character member)
  | infinite negative =>
      have words (negative : Bool) : (if negative then "-inf" else "inf" : Text).all
          (fun character => Text.isNumeric character || Text.isLetter character) = true := by
        cases negative <;> decide
      exact Bool.or_eq_true_iff.mp (List.all_eq_true.mp (words negative) character member)
  | finite negative significand exponent canonical =>
      exact .inl (isNumeric_of_mem_text rfl character member)

end Floating

end ChessDiagram
