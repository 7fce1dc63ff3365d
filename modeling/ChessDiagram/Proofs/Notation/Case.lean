import ChessDiagram.Proofs.Notation.LineEnds
import ChessDiagram.Proofs.Notation.Spellings
import ChessDiagram.Proofs.Text.Case

/-!
# ASCII case in sources

Reading a source in lower case gives what reading it as it is written gives, in lower case: the same
theme, alignment, size and switches, and the free texts and cells with their capitals lowered.
-/

namespace ChessDiagram

def Settings.lower (settings : Settings) : Settings :=
  { settings with
    title := Text.lower settings.title
    notes := Text.lower settings.notes
    moves := Text.lower settings.moves }

namespace Grid

def lower (grid : Grid) : Grid where
  width := grid.width
  rows := grid.rows.map (List.map Text.lower)
  width_pos := grid.width_pos
  rows_ne_nil := by simpa using grid.rows_ne_nil
  row_length := by
    intro row member
    obtain ⟨source, sourceMember, rfl⟩ := List.mem_map.mp member
    rw [List.length_map]
    exact grid.row_length source sourceMember

theorem widest_lower (rows : List (List Text)) :
    widest (rows.map (List.map Text.lower)) = widest rows := by
  induction rows with
  | nil => rfl
  | cons row rows induction =>
      show max _ (widest (rows.map (List.map Text.lower))) = max _ (widest rows)
      rw [induction, List.length_map]

theorem pad_lower (width : Nat) (row : List Text) :
    pad width (row.map Text.lower) = (pad width row).map Text.lower := by
  simp [pad]

theorem ofRows_lower (rows : List (List Text)) :
    ofRows (rows.map (List.map Text.lower)) = (ofRows rows).lower := by
  simp only [ofRows, lower, mk.injEq, widest_lower, true_and]
  cases rows with
  | nil => rfl
  | cons row rows =>
      show ((row :: rows).map (List.map Text.lower)).map
          (pad (widest ((row :: rows).map (List.map Text.lower)))) =
        ((row :: rows).map (pad (widest (row :: rows)))).map (List.map Text.lower)
      rw [widest_lower, List.map_map, List.map_map]
      exact List.map_congr_left fun source _ => pad_lower _ source

end Grid

def Diagram.lower (diagram : Diagram) : Diagram where
  settings := diagram.settings.lower
  grid := diagram.grid.lower

namespace Notation

theorem valueOn?_lower (name line : Text) :
    valueOn? name (Text.lower line) = (valueOn? name line).map Text.lower := by
  unfold valueOn?
  rw [Text.skipGap_lower, Text.afterWord?_lower]
  cases Text.afterWord? name (Text.skipGap line) with
  | none => rfl
  | some behind =>
      cases behind with
      | nil => rfl
      | cons separator rest =>
          by_cases gap : Text.isGap separator
          · simp [Text.CaseBlind.isGap separator, gap, Text.skipGap_lower]
          · simp [Text.CaseBlind.isGap separator, gap]

theorem settingOn?_lower (name line : Text) :
    settingOn? name (Text.lower line) = (settingOn? name line).map Text.lower := by
  rw [settingOn?, settingOn?, valueOn?_lower, Option.map_map, Option.map_map]
  apply congrArg (Option.map · _)
  exact funext Text.trimEnd_lower

theorem value_lower (source : Text) (keyword : Keyword) :
    value (Text.lower source) keyword.word = Text.lower (value source keyword.word) := by
  have read : settingOn? keyword.word ∘ Text.lower =
      Option.map Text.lower ∘ settingOn? keyword.word := funext (settingOn?_lower _)
  rw [value_eq_findSome?_splitOn, value_eq_findSome?_splitOn, Text.splitOn_lower, List.map_map,
    read, ← List.map_map]
  generalize (source.splitOn '\n').map (settingOn? keyword.word) = values
  induction values with
  | nil => rfl
  | cons value values induction =>
      cases value with
      | none => exact induction
      | some found => rfl

theorem isUnitChar_caseBlind : Text.CaseBlind isUnitChar :=
  .of_capitals (by decide)

theorem size?_lower (text : Text) : size? (Text.lower text) = size? text := by
  have digits : Text.lower ((Text.skipGap text).takeWhile Text.isDigit) =
      (Text.skipGap text).takeWhile Text.isDigit :=
    Text.lower_of_digits fun _ member => List.mem_takeWhile_imp member
  simp only [size?, Text.skipGap_lower, Text.CaseBlind.isDigit.takeWhile_lower, digits,
    Text.CaseBlind.isDigit.dropWhile_lower, isUnitChar_caseBlind.takeWhile_lower,
    isUnitChar_caseBlind.dropWhile_lower, Text.lower_eq_nil_iff, LengthUnit.ofSpelling?_lower]

theorem settings_lower (source : Text) :
    settings (Text.lower source) = (settings source).lower := by
  simp only [settings, Settings.lower, theme, align, size, switch, value_lower,
    Theme.ofSpelling?_lower, Align.ofSpelling?_lower, size?_lower, Text.agrees_lower]

theorem takeCell_lower (text : Text) :
    takeCell (Text.lower text) =
      (Text.lower (takeCell text).1, Text.lower (takeCell text).2) := by
  simp only [takeCell, Text.skipGap_lower, isCellChar_caseBlind.takeWhile_lower, Text.take_lower,
    Text.length_lower, Text.drop_lower]

theorem lowerChar_eq_bar_iff {character : Char} :
    Text.lowerChar character = '|' ↔ character = '|' := by
  have blind : Text.CaseBlind (· == '|') := .of_capitals (by decide)
  simpa using congrArg (· = true) (blind character)

theorem map_lowerChar_eq_bar_iff {found : Option Char} :
    found.map Text.lowerChar = some '|' ↔ found = some '|' := by
  simp [Option.map_eq_some_iff, lowerChar_eq_bar_iff]

theorem hasClosingBar_lower (row : Text) :
    hasClosingBar (Text.lower row) = hasClosingBar row := by
  have last : ((Text.lower row).getLast? == some '|') = (row.getLast? == some '|') := by
    rw [Text.lower, List.getLast?_map, Bool.eq_iff_iff, beq_iff_eq, beq_iff_eq,
      map_lowerChar_eq_bar_iff]
  rw [hasClosingBar, hasClosingBar, last, Text.length_lower]

theorem barCells?_lower (text : Text) :
    barCells? (Text.lower text) = (barCells? text).map (List.map Text.lower) := by
  induction text using barCells?.induct with
  | case1 =>
      rw [Text.lower_nil, barCells?]
      rfl
  | case2 rest induction =>
      have lowered : Text.lower ('|' :: rest) = '|' :: Text.lower rest := rfl
      rw [lowered, barCells?_bar, barCells?_bar, takeCell_lower, induction]
      cases barCells? (takeCell rest).2 <;> rfl
  | case3 character rest noBar =>
      have noBarLowered : Text.lowerChar character ≠ '|' := mt lowerChar_eq_bar_iff.mp noBar
      rw [Text.lower_cons, barCells?, if_neg noBarLowered, barCells?, if_neg noBar]
      rfl

theorem row?_lower (line : Text) :
    row? (Text.lower line) = (row? line).map (List.map Text.lower) := by
  rw [row?, row?, Text.trim_lower]
  generalize Text.trim line = row
  have first : (Text.lower row).head? = some '|' ↔ row.head? = some '|' := by
    rw [Text.lower, List.head?_map, map_lowerChar_eq_bar_iff]
  simp only [trimmedRow?, first, barCells?_lower, hasClosingBar_lower]
  split
  · cases barCells? row with
    | none => rfl
    | some cells =>
        simp only [Option.map_some]
        split <;> simp [List.map_dropLast]
  · rfl

theorem firstRun_map (change : α → β) (values : List (Option α)) :
    firstRun (values.map (Option.map change)) = (firstRun values).map change := by
  induction values with
  | nil => rfl
  | cons value values induction =>
      cases value with
      | none => exact induction
      | some found =>
          have present : Option.isSome ∘ Option.map change = Option.isSome :=
            funext fun _ => Option.isSome_map
          show change found ::
              ((values.map (Option.map change)).takeWhile Option.isSome).filterMap id =
            change found :: ((values.takeWhile Option.isSome).filterMap id).map change
          rw [List.takeWhile_map, present, List.filterMap_map, List.map_filterMap]
          rfl

theorem grid_lower (source : Text) : grid (Text.lower source) = (grid source).lower := by
  have read : row? ∘ Text.lower = Option.map (List.map Text.lower) ∘ row? := funext row?_lower
  rw [grid_eq_ofRows_splitOn, grid_eq_ofRows_splitOn, Text.splitOn_lower, List.map_map, read,
    ← List.map_map, firstRun_map, Grid.ofRows_lower]

/-- A source in lower case is a source of the diagram in lower case. -/
theorem diagram_lower (source : Text) : diagram (Text.lower source) = (diagram source).lower := by
  rw [diagram, settings_lower, grid_lower]
  rfl

end Notation

end ChessDiagram
