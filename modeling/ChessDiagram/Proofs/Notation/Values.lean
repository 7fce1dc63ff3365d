import ChessDiagram.Notation.Setting
import ChessDiagram.Proofs.Text.Case
import ChessDiagram.Proofs.Text.Lines
import ChessDiagram.Proofs.Text.OneLine
import ChessDiagram.Proofs.Text.Runs
import ChessDiagram.Proofs.Text.Words

/-!
# Values stay on their lines

A line that sets a name is a gap, the name in some ASCII case, a gap and the value.  What is read is
therefore a part of the line and never goes over its end.
-/

namespace ChessDiagram.Notation

/-- The line sets a name: behind a gap, which may be empty, it has the name in some ASCII case, and
directly behind the name a space or a tab. -/
def Sets (name line : Text) : Prop :=
  ∃ opening separator rest, Text.skipGap line = opening ++ separator :: rest ∧
    Text.agrees opening name = true ∧ Text.isGap separator = true

theorem valueOn?_eq_some_iff {name line found : Text} :
    valueOn? name line = some found ↔
      ∃ opening separator rest, Text.skipGap line = opening ++ separator :: rest ∧
        Text.agrees opening name = true ∧ Text.isGap separator = true ∧
          found = Text.skipGap rest := by
  unfold valueOn?
  constructor
  · intro value
    split at value
    case h_1 separator rest opened =>
      obtain ⟨gap, same⟩ := Option.ite_none_right_eq_some.mp value
      obtain rfl := Option.some.inj same
      obtain ⟨opening, whole, lowered⟩ := Text.afterWord?_eq_some_iff.mp opened
      exact ⟨opening, separator, rest, whole, Text.agrees_iff.mpr lowered, gap, rfl⟩
    case h_2 => cases value
  · rintro ⟨opening, separator, rest, whole, agreeing, gap, rfl⟩
    have opened : Text.afterWord? name (Text.skipGap line) = some (separator :: rest) :=
      Text.afterWord?_eq_some_iff.mpr ⟨opening, whole, Text.agrees_iff.mp agreeing⟩
    simp only [opened, if_pos gap]

theorem sets_iff {name line : Text} : Sets name line ↔ (valueOn? name line).isSome = true := by
  rw [Option.isSome_iff_exists]
  constructor
  · rintro ⟨opening, separator, rest, whole, agreeing, gap⟩
    exact ⟨_, valueOn?_eq_some_iff.mpr ⟨opening, separator, rest, whole, agreeing, gap, rfl⟩⟩
  · rintro ⟨found, value⟩
    obtain ⟨opening, separator, rest, whole, agreeing, gap, -⟩ := valueOn?_eq_some_iff.mp value
    exact ⟨opening, separator, rest, whole, agreeing, gap⟩

instance (name line : Text) : Decidable (Sets name line) :=
  decidable_of_iff _ sets_iff.symm

theorem exists_of_valueOn? {name line found : Text} (value : valueOn? name line = some found) :
    ∃ before opening separator rest,
      line = before ++ (opening ++ separator :: rest) ∧ Text.GapOnly before ∧
        Text.lower opening = Text.lower name ∧ found = Text.skipGap rest := by
  obtain ⟨before, gap, line⟩ := Text.exists_gap_append_skipGap line
  obtain ⟨opening, separator, rest, whole, agreeing, -, same⟩ := valueOn?_eq_some_iff.mp value
  rw [whole] at line
  exact ⟨before, opening, separator, rest, line, gap, Text.agrees_iff.mp agreeing, same⟩

theorem suffix_of_valueOn? {name line found : Text} (value : valueOn? name line = some found) :
    found <:+ line := by
  obtain ⟨before, opening, separator, rest, rfl, -, -, rfl⟩ := exists_of_valueOn? value
  have behind : Text.skipGap rest <:+ separator :: rest :=
    (List.dropWhile_suffix _).trans (List.suffix_cons separator rest)
  exact behind.trans ((List.suffix_append opening _).trans (List.suffix_append before _))

/-- A value never reaches over the end of its line. -/
theorem feed_notMem_value (source name : Text) : '\n' ∉ value source name := by
  unfold value
  split
  · rename_i found looked
    obtain ⟨line, lineMember, value⟩ := List.exists_of_findSome?_eq_some looked
    apply Text.feed_notMem_dropEndWhile
    intro feed
    exact Text.feed_notMem_of_mem_lines lineMember ((suffix_of_valueOn? value).mem feed)
  · simp

/-- A value starts behind the gap that follows its name. -/
theorem stopsAt_value (source name : Text) : Text.StopsAt Text.isGap (value source name) := by
  unfold value
  split
  · rename_i found looked
    obtain ⟨line, -, read⟩ := List.exists_of_findSome?_eq_some looked
    obtain ⟨opening, separator, rest, -, -, -, rfl⟩ := valueOn?_eq_some_iff.mp read
    exact (Text.stopsAt_skipGap rest).of_opening (Text.prefix_dropEndWhile _ _)
  · exact Text.stopsAt_nil _

theorem getLast?_value (source name : Text) :
    ∀ character ∈ (value source name).getLast?, Text.isBlank character = false := by
  unfold value
  split
  · exact Text.getLast?_dropEndWhile _ _
  · simp

end ChessDiagram.Notation
