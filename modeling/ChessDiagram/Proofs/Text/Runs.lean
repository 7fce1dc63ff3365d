import ChessDiagram.Text.Blank
import Mathlib.Data.List.TakeWhile
import Mathlib.Order.MinMax

/-!
# Runs of characters

A reader that takes characters of a class as long as they last splits a text exactly at the first
character outside the class.  The lemmas below say this once for any class, for the gaps that every
part of the notation may stand between, and for the runs of a single character.
-/

namespace ChessDiagram.Text

/-- No character of the class comes next. -/
def StopsAt (among : Char → Bool) (text : Text) : Prop :=
  ∀ character ∈ text.head?, among character = false

/-- A text of spaces and tabs only. -/
def GapOnly (text : Text) : Prop :=
  ∀ character ∈ text, isGap character = true

instance (text : Text) : Decidable (GapOnly text) :=
  decidable_of_iff (text.all isGap = true) List.all_eq_true

@[simp] theorem stopsAt_nil (among : Char → Bool) : StopsAt among [] := by
  intro character member
  simp at member

@[simp] theorem stopsAt_cons {among : Char → Bool} {character : Char} {rest : Text} :
    StopsAt among (character :: rest) ↔ among character = false := by
  simp [StopsAt]

theorem StopsAt.append {among : Char → Bool} {text : Text} (nonempty : text ≠ [])
    (stops : StopsAt among text) (rest : Text) : StopsAt among (text ++ rest) := by
  cases text with
  | nil => exact (nonempty rfl).elim
  | cons character text => simpa using stops

theorem StopsAt.of_opening {among : Char → Bool} {front text : Text} (opening : front <+: text)
    (stops : StopsAt among text) : StopsAt among front := by
  obtain ⟨rest, rfl⟩ := opening
  cases front with
  | nil => exact stopsAt_nil among
  | cons character front => simpa using stops

theorem stopsAt_dropWhile (among : Char → Bool) (text : Text) :
    StopsAt among (text.dropWhile among) := by
  intro character member
  have first := List.head?_dropWhile_not among text
  rw [Option.mem_def] at member
  rw [member] at first
  exact first

theorem takeWhile_of_stopsAt {among : Char → Bool} {text : Text}
    (stops : StopsAt among text) : text.takeWhile among = [] := by
  cases text with
  | nil => rfl
  | cons character text =>
      rw [stopsAt_cons] at stops
      simp [stops]

theorem dropWhile_of_stopsAt {among : Char → Bool} {text : Text}
    (stops : StopsAt among text) : text.dropWhile among = text := by
  cases text with
  | nil => rfl
  | cons character text =>
      rw [stopsAt_cons] at stops
      simp [stops]

theorem takeWhile_run {among : Char → Bool} {run rest : Text}
    (inside : ∀ character ∈ run, among character = true) (stops : StopsAt among rest) :
    (run ++ rest).takeWhile among = run := by
  rw [List.takeWhile_append_of_pos inside, takeWhile_of_stopsAt stops, List.append_nil]

theorem dropWhile_run {among : Char → Bool} {run rest : Text}
    (inside : ∀ character ∈ run, among character = true) (stops : StopsAt among rest) :
    (run ++ rest).dropWhile among = rest := by
  rw [List.dropWhile_append_of_pos inside, dropWhile_of_stopsAt stops]

@[simp] theorem dropEndWhile_nil (among : Char → Bool) : dropEndWhile among [] = [] :=
  rfl

theorem dropEndWhile_cons (among : Char → Bool) (character : Char) (rest : Text) :
    dropEndWhile among (character :: rest) =
      if (dropEndWhile among rest).isEmpty && among character then []
      else character :: dropEndWhile among rest :=
  rfl

theorem dropEndWhile_append_of_pos {among : Char → Bool} {character : Char} (text : Text)
    (inside : among character = true) :
    dropEndWhile among (text ++ [character]) = dropEndWhile among text := by
  induction text with
  | nil => simp [dropEndWhile_cons, inside]
  | cons first text induction =>
      rw [List.cons_append, dropEndWhile_cons, dropEndWhile_cons, induction]

theorem dropEndWhile_append_of_neg {among : Char → Bool} {character : Char} (text : Text)
    (outside : among character = false) :
    dropEndWhile among (text ++ [character]) = text ++ [character] := by
  induction text with
  | nil => simp [dropEndWhile_cons, outside]
  | cons first text induction =>
      rw [List.cons_append, dropEndWhile_cons, induction]
      simp

theorem dropEndWhile_append_run {among : Char → Bool} {run : Text} (text : Text)
    (inside : ∀ character ∈ run, among character = true) :
    dropEndWhile among (text ++ run) = dropEndWhile among text := by
  induction run generalizing text with
  | nil => rw [List.append_nil]
  | cons character run induction =>
      obtain ⟨first, behind⟩ := List.forall_mem_cons.mp inside
      rw [List.append_cons, induction _ behind, dropEndWhile_append_of_pos text first]

theorem dropEndWhile_of_getLast? {among : Char → Bool} {text : Text}
    (last : ∀ character ∈ text.getLast?, among character = false) :
    dropEndWhile among text = text := by
  cases found : text.getLast? with
  | none =>
      rw [List.getLast?_eq_none_iff.mp found]
      rfl
  | some character =>
      obtain ⟨front, rfl⟩ := List.getLast?_eq_some_iff.mp found
      exact dropEndWhile_append_of_neg front (last character found)

/-- What is left of a text ends outside of the class that was dropped. -/
theorem getLast?_dropEndWhile (among : Char → Bool) (text : Text) :
    ∀ character ∈ (dropEndWhile among text).getLast?, among character = false := by
  induction text with
  | nil => simp
  | cons first text induction =>
      rw [dropEndWhile_cons]
      split
      case isTrue => simp
      case isFalse kept =>
        rw [List.getLast?_cons]
        cases last : (dropEndWhile among text).getLast? with
        | none =>
            rw [List.getLast?_eq_none_iff.mp last] at kept
            simpa using kept
        | some character => simpa using induction character last

theorem trimEnd_of_getLast? {text : Text}
    (last : ∀ character ∈ text.getLast?, isBlank character = false) : trimEnd text = text :=
  dropEndWhile_of_getLast? last

/-- A text that ends outside of a class has no final run of it. -/
theorem eq_nil_of_getLast? {among : Char → Bool} {front run : Text}
    (inside : ∀ character ∈ run, among character = true)
    (last : ∀ character ∈ (front ++ run).getLast?, among character = false) : run = [] := by
  rcases List.eq_nil_or_concat run with empty | ⟨others, final, rfl⟩
  · exact empty
  · have isIn := inside final (by simp)
    rw [last final (by simp)] at isIn
    cases isIn

/-- A text is what is left of it and the run that was dropped. -/
theorem exists_append_dropEndWhile (among : Char → Bool) (text : Text) :
    ∃ run, (∀ character ∈ run, among character = true) ∧ text = dropEndWhile among text ++ run := by
  induction text with
  | nil => exact ⟨[], by simp, rfl⟩
  | cons first text induction =>
      obtain ⟨run, inside, whole⟩ := induction
      rw [dropEndWhile_cons]
      split
      · rename_i dropped
        simp only [Bool.and_eq_true, List.isEmpty_iff] at dropped
        rw [dropped.1, List.nil_append] at whole
        refine ⟨first :: run, ?_, by rw [← whole, List.nil_append]⟩
        simpa [dropped.2] using inside
      · exact ⟨run, inside, by rw [List.cons_append, ← whole]⟩

theorem prefix_dropEndWhile (among : Char → Bool) (text : Text) :
    dropEndWhile among text <+: text := by
  obtain ⟨run, -, whole⟩ := exists_append_dropEndWhile among text
  exact ⟨run, whole.symm⟩

theorem not_isGap_of_not_isBlank {character : Char} (noBlank : isBlank character = false) :
    isGap character = false := by
  rw [Bool.eq_false_iff]
  intro gap
  rw [isBlank_of_isGap gap] at noBlank
  cases noBlank

theorem gapOnly_takeWhile (text : Text) : GapOnly (text.takeWhile isGap) :=
  fun _ member => List.mem_takeWhile_imp member

theorem skipGap_append {before rest : Text} (gap : GapOnly before) :
    skipGap (before ++ rest) = skipGap rest :=
  List.dropWhile_append_of_pos gap

theorem skipGap_of_stopsAt {text : Text} (stops : StopsAt isGap text) :
    skipGap text = text :=
  dropWhile_of_stopsAt stops

theorem stopsAt_skipGap (text : Text) : StopsAt isGap (skipGap text) :=
  stopsAt_dropWhile isGap text

theorem skipGap_eq_nil_iff {text : Text} : skipGap text = [] ↔ GapOnly text :=
  List.dropWhile_eq_nil_iff

/-- Every text is a gap, which may be empty, and what is left when it is skipped. -/
theorem exists_gap_append_skipGap (text : Text) :
    ∃ before, GapOnly before ∧ text = before ++ skipGap text :=
  ⟨text.takeWhile isGap, gapOnly_takeWhile text, List.takeWhile_append_dropWhile.symm⟩

theorem dropEndWhile_congr {among other : Char → Bool} {text : Text}
    (same : ∀ character ∈ text, among character = other character) :
    dropEndWhile among text = dropEndWhile other text := by
  induction text with
  | nil => rfl
  | cons character text induction =>
      obtain ⟨first, behind⟩ := List.forall_mem_cons.mp same
      rw [dropEndWhile_cons, dropEndWhile_cons, first, induction behind]

/-- The length of the longest run of a character in a text. -/
def longestRun (character : Char) : Text → Nat
  | [] => 0
  | first :: rest =>
      max ((first :: rest).takeWhile (· == character)).length (longestRun character rest)

private theorem replicate_prefix_iff {character : Char} {count : Nat} {text : Text} :
    List.replicate count character <+: text ↔
      count ≤ (text.takeWhile (· == character)).length := by
  constructor
  · rintro ⟨behind, rfl⟩
    have inside : ∀ same ∈ List.replicate count character, (same == character) = true := by
      intro same member
      simpa using List.eq_of_mem_replicate member
    rw [List.takeWhile_append_of_pos inside, List.length_append, List.length_replicate]
    exact Nat.le_add_right _ _
  · intro enough
    have run : text.takeWhile (· == character) =
        List.replicate (text.takeWhile (· == character)).length character := by
      apply List.eq_replicate_of_mem
      intro same member
      simpa using List.mem_takeWhile_imp member
    have start : List.replicate count character <+: text.takeWhile (· == character) := by
      rw [run, ← Nat.add_sub_cancel' enough, ← List.replicate_append_replicate]
      exact List.prefix_append _ _
    exact start.trans (List.takeWhile_prefix _)

theorem le_longestRun_iff {character : Char} {count : Nat} {text : Text} :
    count ≤ longestRun character text ↔ List.replicate count character <:+: text := by
  induction text with
  | nil => simp [longestRun]
  | cons first rest induction =>
      rw [longestRun, le_max_iff, induction, List.infix_cons_iff, replicate_prefix_iff]

end ChessDiagram.Text
