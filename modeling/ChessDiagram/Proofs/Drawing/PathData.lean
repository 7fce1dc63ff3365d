import ChessDiagram.Drawing.Board
import ChessDiagram.Proofs.Number.Digits

/-!
# The characters of path data

The paths of a drawing are commands with spaces between them: a letter, and numbers with commas
between them.  The paths of the glyphs are fixed, those of the dark lines are computed.
-/

namespace ChessDiagram

/-- The characters of path data whose numbers are finite. -/
def isPathChar (character : Char) : Bool :=
  Text.isNumeric character || (" ,MLCAZh" : Text).contains character

theorem isPathChar_of_isNumeric {character : Char} (numeric : Text.isNumeric character = true) :
    isPathChar character = true := by
  rw [isPathChar, numeric, Bool.true_or]

theorem PieceKind.isPathChar_of_mem_paths (kind : PieceKind) :
    ∀ path ∈ kind.paths, ∀ character ∈ path, isPathChar character = true := by
  have commands : ∀ path ∈ kind.pathCommands, ∀ command ∈ path,
      command.toList.all isPathChar = true := by
    cases kind <;> decide +kernel
  intro path listed character member
  obtain ⟨texts, textsListed, rfl⟩ := List.mem_map.mp listed
  rcases Text.mem_of_mem_join member with between | ⟨text, textMember, within⟩
  · rw [List.mem_singleton.mp between]
    decide
  · obtain ⟨command, commandMember, rfl⟩ := List.mem_map.mp textMember
    exact List.all_eq_true.mp (commands texts textsListed command commandMember) character within

namespace Board

namespace PathCommand

def numbers : PathCommand → List Binary32
  | .moveTo point => [point.x, point.y]
  | .rightBy length => [length]

theorem isPathChar_of_mem_text {command : PathCommand}
    (finite : ∀ number ∈ command.numbers, number.isFinite = true) :
    ∀ character ∈ command.text, isPathChar character = true := by
  have written {number : Binary32} (finite : number.isFinite = true) :
      ∀ character ∈ number.text, isPathChar character = true :=
    fun character member =>
      isPathChar_of_isNumeric (Floating.isNumeric_of_mem_text finite character member)
  have fixed {text : Text} (all : text.all isPathChar = true) :
      ∀ character ∈ text, isPathChar character = true :=
    List.all_eq_true.mp all
  cases command with
  | moveTo point =>
      simp only [numbers, List.forall_mem_cons] at finite
      simp only [text, List.forall_mem_append]
      exact ⟨⟨⟨fixed (by decide), written finite.1⟩, fixed (by decide)⟩, written finite.2.1⟩
  | rightBy length =>
      simp only [numbers, List.forall_mem_cons] at finite
      simp only [text, List.forall_mem_append]
      exact ⟨fixed (by decide), written finite.1⟩

end PathCommand

theorem isPathChar_of_mem_pathText {commands : List PathCommand}
    (finite : ∀ command ∈ commands, ∀ number ∈ command.numbers, number.isFinite = true) :
    ∀ character ∈ pathText commands, isPathChar character = true := by
  intro character member
  rcases Text.mem_of_mem_join member with between | ⟨text, textMember, within⟩
  · rw [List.mem_singleton.mp between]
    decide
  · obtain ⟨command, listed, rfl⟩ := List.mem_map.mp textMember
    exact PathCommand.isPathChar_of_mem_text (finite command listed) character within

end Board

end ChessDiagram
