import ChessDiagram.Text.Basic

/-!
# Openings of texts

What is left of a text behind a word that it starts with, exactly or up to ASCII case, determines
the text up to the case of that word.
-/

namespace ChessDiagram.Text

theorem afterExact?_eq_some_iff {word text rest : Text} :
    afterExact? word text = some rest ↔ text = word ++ rest := by
  induction word generalizing text with
  | nil => simp [afterExact?]
  | cons letter word induction =>
      cases text with
      | nil => simp [afterExact?]
      | cons character text =>
          by_cases same : letter = character
          · simp [afterExact?, same, induction]
          · simp [afterExact?, same, Ne.symm same]

theorem afterWord?_eq_some_iff {word text rest : Text} :
    afterWord? word text = some rest ↔
      ∃ opening, text = opening ++ rest ∧ lower opening = lower word := by
  induction word generalizing text with
  | nil => simp [afterWord?, lower, eq_comm]
  | cons letter word induction =>
      cases text with
      | nil => simp [afterWord?, lower]
      | cons character text =>
          by_cases same : lowerChar letter = lowerChar character
          · rw [afterWord?, if_pos same, induction]
            constructor
            · rintro ⟨opening, rfl, lowered⟩
              exact ⟨character :: opening, rfl, by simp_all [lower]⟩
            · rintro ⟨opening, whole, lowered⟩
              cases opening with
              | nil => simp [lower] at lowered
              | cons first opening =>
                  obtain ⟨rfl, rfl⟩ := List.cons.inj whole
                  exact ⟨opening, rfl, by simp_all [lower]⟩
          · rw [afterWord?, if_neg same]
            constructor
            · intro impossible
              cases impossible
            · rintro ⟨opening, whole, lowered⟩
              cases opening with
              | nil => simp [lower] at lowered
              | cons first opening =>
                  obtain ⟨rfl, rfl⟩ := List.cons.inj whole
                  exact (same (List.cons.inj lowered).1.symm).elim

end ChessDiagram.Text
