import ChessDiagram.Color.Text
import ChessDiagram.Proofs.Number.Digits

/-!
# Numbers and colours on one line
-/

namespace ChessDiagram

@[simp] theorem Floating.feed_notMem_text {format : Format} (number : Floating format) :
    '\n' ∉ number.text := by
  intro feed
  rcases number.isNumeric_or_of_mem_text _ feed with numeric | letter
  · exact absurd numeric (by decide)
  · exact absurd letter (by decide)

namespace Color

theorem Keyword.isLetter_of_mem_text (keyword : Keyword) :
    ∀ character ∈ keyword.text, Text.isLetter character = true := by
  have names : ∀ name ∈ keywordNames, name.toList.all Text.isLetter = true := by decide +kernel
  exact List.all_eq_true.mp (names keyword.name keyword.listed)

theorem Keyword.feed_notMem_text (keyword : Keyword) : '\n' ∉ keyword.text := by
  intro feed
  exact absurd (keyword.isLetter_of_mem_text _ feed) (by decide)

@[simp] theorem Component.feed_notMem_text (component : Component) : '\n' ∉ component.text := by
  cases component with
  | none => simp [Component.text]
  | some number => simp [Component.text]

@[simp] theorem Space.feed_notMem_name (space : Space) : '\n' ∉ space.name := by
  cases space <;> decide

namespace Coordinates

theorem feed_notMem_rgbText (coordinates : Coordinates) : '\n' ∉ coordinates.rgbText := by
  unfold rgbText
  split <;> simp [Text.join]

theorem feed_notMem_functionText {opening : Text} (noFeed : '\n' ∉ opening)
    (coordinates : Coordinates) : '\n' ∉ functionText opening coordinates := by
  unfold functionText
  split <;> simp [Text.join, noFeed]

theorem feed_notMem_text (coordinates : Coordinates) : '\n' ∉ coordinates.text := by
  unfold Coordinates.text
  split
  case h_8 space _ =>
    exact feed_notMem_functionText (by simp) coordinates
  all_goals
    first
    | exact feed_notMem_rgbText _
    | exact feed_notMem_functionText (by simp) coordinates

end Coordinates

@[simp] theorem feed_notMem_text (color : Color) : '\n' ∉ color.text := by
  cases color with
  | named keyword => exact keyword.feed_notMem_text
  | given coordinates => exact coordinates.feed_notMem_text

end Color

end ChessDiagram
