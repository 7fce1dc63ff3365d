import ChessDiagram.Text.Escape
import Mathlib.Data.List.Basic

/-!
# Escaped text holds no markup

The three replacements of escaping do not meet each other's results: together they replace every
character by its reference, in one pass.  An escaped text is therefore without angle brackets, and
every ampersand in it opens one of the three references.
-/

namespace ChessDiagram.Text

/-- What escaping writes for a single character. -/
def escapeChar : Char → Text
  | '&' => "&amp;"
  | '<' => "&lt;"
  | '>' => "&gt;"
  | character => [character]

theorem escape_eq_flatMap (text : Text) : escape text = text.flatMap escapeChar := by
  unfold escape replaceChar
  rw [List.flatMap_assoc, List.flatMap_assoc]
  apply List.flatMap_congr
  intro character _
  by_cases ampersand : character = '&'
  · subst character
    rfl
  by_cases opening : character = '<'
  · subst character
    rfl
  by_cases closing : character = '>'
  · subst character
    rfl
  simp [escapeChar, ampersand, opening, closing]

theorem escape_cons (character : Char) (text : Text) :
    escape (character :: text) = escapeChar character ++ escape text := by
  rw [escape_eq_flatMap, escape_eq_flatMap, List.flatMap_cons]

/-- A text without angle brackets. -/
def Bracketless (text : Text) : Prop :=
  '<' ∉ text ∧ '>' ∉ text

instance (text : Text) : Decidable (Bracketless text) :=
  inferInstanceAs (Decidable (_ ∧ _))

@[simp] theorem bracketless_nil : Bracketless [] := by
  decide

@[simp] theorem bracketless_append {front back : Text} :
    Bracketless (front ++ back) ↔ Bracketless front ∧ Bracketless back := by
  simp only [Bracketless, List.mem_append, not_or]
  tauto

theorem bracketless_escapeChar (character : Char) : Bracketless (escapeChar character) := by
  unfold escapeChar
  split
  case h_4 noAmpersand noOpening noClosing =>
    exact ⟨by simpa using Ne.symm noOpening, by simpa using Ne.symm noClosing⟩
  all_goals decide

theorem bracketless_escape (text : Text) : Bracketless (escape text) := by
  induction text with
  | nil => exact bracketless_nil
  | cons character rest induction =>
      rw [escape_cons]
      exact bracketless_append.mpr ⟨bracketless_escapeChar character, induction⟩

/-- Where a character first stands behind a front without it, it stands in the rest. -/
theorem suffix_of_suffix_append {character : Char} {rest front text : Text}
    (absent : character ∉ front) (suffix : character :: rest <:+ front ++ text) :
    character :: rest <:+ text := by
  induction front with
  | nil => exact suffix
  | cons first front induction =>
      rcases List.suffix_cons_iff.mp suffix with same | later
      · rw [(List.cons.inj same).1] at absent
        exact (absent List.mem_cons_self).elim
      · exact induction (List.not_mem_of_not_mem_cons absent) later

def references : List Text :=
  ["&amp;", "&lt;", "&gt;"]

/-- Every ampersand of a text is the first character of a reference. -/
def AmpersandsOpenReferences (text : Text) : Prop :=
  ∀ rest, '&' :: rest <:+ text → ∃ reference ∈ references, reference <+: '&' :: rest

theorem AmpersandsOpenReferences.append {front text : Text} (noAmpersand : '&' ∉ front)
    (behind : AmpersandsOpenReferences text) : AmpersandsOpenReferences (front ++ text) :=
  fun rest suffix => behind rest (suffix_of_suffix_append noAmpersand suffix)

theorem AmpersandsOpenReferences.append_reference {name text : Text}
    (listed : '&' :: name ∈ references) (noAmpersand : '&' ∉ name)
    (behind : AmpersandsOpenReferences text) :
    AmpersandsOpenReferences ('&' :: name ++ text) := by
  intro rest suffix
  rcases List.suffix_cons_iff.mp suffix with same | later
  · exact ⟨'&' :: name, listed, text, same.symm⟩
  · exact behind.append noAmpersand rest later

theorem ampersandsOpenReferences_escape (text : Text) :
    AmpersandsOpenReferences (escape text) := by
  induction text with
  | nil =>
      intro rest suffix
      cases List.suffix_nil.mp suffix
  | cons character rest induction =>
      rw [escape_cons]
      unfold escapeChar
      split
      case h_4 noAmpersand _ _ =>
        exact induction.append (by simpa using Ne.symm noAmpersand)
      all_goals exact induction.append_reference (by decide) (by decide)

end ChessDiagram.Text
