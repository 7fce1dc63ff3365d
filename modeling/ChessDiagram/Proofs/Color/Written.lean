import ChessDiagram.Proofs.Color.OneLine
import ChessDiagram.Proofs.Text.Runs

/-!
# The alpha in the text of a colour

The text of a colour that is not opaque ends with its alpha: behind a slash, or behind the third
comma.  The texts of opaque colours and of keywords have neither.
-/

namespace ChessDiagram.Color

/-- The alpha that a colour is written with, if it is: what stands behind a slash or behind the
third comma, without the space before it and the parenthesis after it. -/
def writtenAlpha? (text : Text) : Option Text :=
  ((text.splitOn '/')[1]?.or (text.splitOn ',')[3]?).map fun part =>
    (part.takeWhile fun character => character != ')').dropWhile fun character => character == ' '

/-- A text without the punctuation of colours, such as a number or a missing coordinate. -/
structure IsPart (text : Text) : Prop where
  slash : '/' ∉ text
  comma : ',' ∉ text
  closing : ')' ∉ text
  space : ' ' ∉ text

theorem isPart_text (component : Component) : IsPart component.text := by
  cases component with
  | none => constructor <;> decide
  | some number =>
      have other {mark : Char} (numeric : Text.isNumeric mark = false)
          (letter : Text.isLetter mark = false) : mark ∉ number.text := by
        intro member
        rcases number.isNumeric_or_of_mem_text mark member with found | found
        · rw [numeric] at found
          cases found
        · rw [letter] at found
          cases found
      constructor <;> exact other (by decide) (by decide)

/-- A part between a space and the closing parenthesis. -/
private theorem trimmed_part {part : Text} (isPart : IsPart part) :
    ((' ' :: part ++ [')']).takeWhile fun character => character != ')').dropWhile
      (fun character => character == ' ') = part := by
  have inside : ∀ character ∈ ' ' :: part, (character != ')') = true := by
    intro character member
    rw [bne_iff_ne]
    rintro rfl
    exact absurd member (by simp [isPart.closing])
  have stops : Text.StopsAt (fun character => character == ' ') part := by
    intro character first
    have member := List.mem_of_mem_head? first
    rw [beq_eq_false_iff_ne]
    rintro rfl
    exact isPart.space member
  have spaces : ∀ character ∈ ([' '] : Text), (character == ' ') = true := by simp
  rw [Text.takeWhile_run inside (by simp)]
  exact Text.dropWhile_run spaces stops

theorem writtenAlpha?_of_slash {front part : Text} (noSlash : '/' ∉ front) (isPart : IsPart part) :
    writtenAlpha? (front ++ '/' :: (' ' :: part ++ [')'])) = some part := by
  have noneBehind : '/' ∉ ' ' :: part ++ [')'] := by simp [isPart.slash]
  rw [writtenAlpha?, List.splitOn_append_cons_self_of_not_mem noSlash,
    List.splitOn_eq_singleton noneBehind]
  exact congrArg some (trimmed_part isPart)

theorem writtenAlpha?_of_noSlash {text : Text} (noSlash : '/' ∉ text) :
    writtenAlpha? text = ((text.splitOn ',')[3]?).map fun part =>
      (part.takeWhile fun character => character != ')').dropWhile
        fun character => character == ' ' := by
  rw [writtenAlpha?, List.splitOn_eq_singleton noSlash]
  rfl

section Channels

variable {first second third alpha : Text}

private theorem writtenAlpha?_rgba (firstPart : IsPart first) (secondPart : IsPart second)
    (thirdPart : IsPart third) (alphaPart : IsPart alpha) :
    writtenAlpha? ("rgba(" ++ Text.join ", " [first, second, third, alpha] ++ ")") =
      some alpha := by
  have written : ("rgba(" : Text) ++ Text.join ", " [first, second, third, alpha] ++ ")" =
      ("rgba(" ++ first) ++ ',' :: (' ' :: second ++ ',' :: (' ' :: third ++ ',' ::
        (' ' :: alpha ++ [')']))) := by
    simp [Text.join]
  have noSlash : '/' ∉ ("rgba(" ++ first : Text) ++ ',' :: (' ' :: second ++ ',' ::
      (' ' :: third ++ ',' :: (' ' :: alpha ++ [')']))) := by
    simp [firstPart.slash, secondPart.slash, thirdPart.slash, alphaPart.slash]
  have firstComma : ',' ∉ ("rgba(" ++ first : Text) := by simp [firstPart.comma]
  have secondComma : ',' ∉ ' ' :: second := by simp [secondPart.comma]
  have thirdComma : ',' ∉ ' ' :: third := by simp [thirdPart.comma]
  have lastComma : ',' ∉ ' ' :: alpha ++ [')'] := by simp [alphaPart.comma]
  rw [written, writtenAlpha?_of_noSlash noSlash,
    List.splitOn_append_cons_self_of_not_mem firstComma,
    List.splitOn_append_cons_self_of_not_mem secondComma,
    List.splitOn_append_cons_self_of_not_mem thirdComma, List.splitOn_eq_singleton lastComma]
  exact congrArg some (trimmed_part alphaPart)

private theorem writtenAlpha?_rgb (firstPart : IsPart first) (secondPart : IsPart second)
    (thirdPart : IsPart third) :
    writtenAlpha? ("rgb(" ++ Text.join ", " [first, second, third] ++ ")") = none := by
  have written : ("rgb(" : Text) ++ Text.join ", " [first, second, third] ++ ")" =
      ("rgb(" ++ first) ++ ',' :: (' ' :: second ++ ',' :: (' ' :: third ++ [')'])) := by
    simp [Text.join]
  have noSlash : '/' ∉ ("rgb(" ++ first : Text) ++ ',' :: (' ' :: second ++ ',' ::
      (' ' :: third ++ [')'])) := by
    simp [firstPart.slash, secondPart.slash, thirdPart.slash]
  have firstComma : ',' ∉ ("rgb(" ++ first : Text) := by simp [firstPart.comma]
  have secondComma : ',' ∉ ' ' :: second := by simp [secondPart.comma]
  have lastComma : ',' ∉ ' ' :: third ++ [')'] := by simp [thirdPart.comma]
  rw [written, writtenAlpha?_of_noSlash noSlash,
    List.splitOn_append_cons_self_of_not_mem firstComma,
    List.splitOn_append_cons_self_of_not_mem secondComma, List.splitOn_eq_singleton lastComma]
  rfl

end Channels

namespace Coordinates

theorem writtenAlpha?_rgbText (coordinates : Coordinates) :
    writtenAlpha? coordinates.rgbText =
      if coordinates.isTranslucent then some coordinates.alpha.text else none := by
  unfold rgbText
  split
  · exact writtenAlpha?_rgba (isPart_text _) (isPart_text _) (isPart_text _) (isPart_text _)
  · exact writtenAlpha?_rgb (isPart_text _) (isPart_text _) (isPart_text _)

theorem writtenAlpha?_functionText {opening : Text} (noSlash : '/' ∉ opening)
    (noComma : ',' ∉ opening) (coordinates : Coordinates) :
    writtenAlpha? (functionText opening coordinates) =
      if coordinates.isTranslucent then some coordinates.alpha.text else none := by
  have first := isPart_text coordinates.first
  have second := isPart_text coordinates.second
  have third := isPart_text coordinates.third
  unfold functionText
  split
  · have front : '/' ∉ opening ++ Text.join " " [coordinates.first.text, coordinates.second.text,
        coordinates.third.text] ++ " " := by
      simp [Text.join, noSlash, first.slash, second.slash, third.slash]
    have whole := writtenAlpha?_of_slash front (isPart_text coordinates.alpha)
    simpa using whole
  · have slashless : '/' ∉ opening ++ Text.join " " [coordinates.first.text,
        coordinates.second.text, coordinates.third.text] ++ [] ++ (")" : Text) := by
      simp [Text.join, noSlash, first.slash, second.slash, third.slash]
    have commaless : ',' ∉ opening ++ Text.join " " [coordinates.first.text,
        coordinates.second.text, coordinates.third.text] ++ [] ++ (")" : Text) := by
      simp [Text.join, noComma, first.comma, second.comma, third.comma]
    simp only
    rw [writtenAlpha?_of_noSlash slashless, List.splitOn_eq_singleton commaless]
    rfl

theorem writtenAlpha?_text (coordinates : Coordinates) :
    writtenAlpha? coordinates.text =
      if coordinates.isTranslucent then some coordinates.alpha.text else none := by
  unfold Coordinates.text
  split
  case h_1 => exact writtenAlpha?_rgbText coordinates
  case h_2 => exact writtenAlpha?_rgbText _
  case h_3 => exact writtenAlpha?_rgbText _
  case h_8 space _ =>
    have slash : '/' ∉ ("color(" : Text) ++ space.name ++ " " := by cases space <;> decide
    have comma : ',' ∉ ("color(" : Text) ++ space.name ++ " " := by cases space <;> decide
    exact writtenAlpha?_functionText slash comma coordinates
  all_goals exact writtenAlpha?_functionText (by decide) (by decide) coordinates

end Coordinates

theorem Keyword.writtenAlpha?_text (keyword : Keyword) : writtenAlpha? keyword.text = none := by
  have slash : '/' ∉ keyword.text :=
    fun member => absurd (keyword.isLetter_of_mem_text _ member) (by decide)
  have comma : ',' ∉ keyword.text :=
    fun member => absurd (keyword.isLetter_of_mem_text _ member) (by decide)
  rw [writtenAlpha?_of_noSlash slash, List.splitOn_eq_singleton comma]
  rfl

/-- What the text of a colour says of its alpha: the alpha itself, for a colour of coordinates that
is not opaque. -/
theorem writtenAlpha?_text (color : Color) :
    writtenAlpha? color.text =
      match color with
      | .named _ => none
      | .given coordinates =>
          if coordinates.isTranslucent then some coordinates.alpha.text else none := by
  cases color with
  | named keyword => exact keyword.writtenAlpha?_text
  | given coordinates => exact coordinates.writtenAlpha?_text

end ChessDiagram.Color
