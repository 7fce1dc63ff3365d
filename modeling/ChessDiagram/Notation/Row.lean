import ChessDiagram.Grid
import ChessDiagram.Text.Blank
import ChessDiagram.Text.Line

/-!
# Rows of a grid

A row is a line that starts with a bar.  Every bar opens a cell of at most two characters, none of
them a bar or a blank, with gaps around it; a bar at the very end of a longer line closes the row
and opens no cell.

Of a source text only the first run of rows counts.  The lines before it and everything from its
first other line on are no part of the grid.
-/

namespace ChessDiagram.Notation

/-- The most characters that a cell holds. -/
def cellWidth : Nat := 2

def isCellChar (character : Char) : Bool :=
  character != '|' && !Text.isBlank character

/-- The cell at the start of a text, and the text after it; gaps around the cell are skipped. -/
def takeCell (text : Text) : Text × Text :=
  let start := Text.skipGap text
  let cell := (start.takeWhile isCellChar).take cellWidth
  (cell, Text.skipGap (start.drop cell.length))

theorem length_skipGap_le (text : Text) : (Text.skipGap text).length ≤ text.length :=
  (List.dropWhile_sublist _).length_le

theorem length_takeCell_le (text : Text) : (takeCell text).2.length ≤ text.length := by
  refine Nat.le_trans (length_skipGap_le _) (Nat.le_trans ?_ (length_skipGap_le text))
  simp only [List.length_drop]
  omega

/-- The cells that the bars of a text open, when nothing is left between cell and next bar. -/
def barCells? : Text → Option (List Text)
  | [] => some []
  | character :: rest =>
      if character = '|' then
        (barCells? (takeCell rest).2).map ((takeCell rest).1 :: ·)
      else
        none
termination_by text => text.length
decreasing_by exact Nat.lt_succ_of_le (length_takeCell_le rest)

/-- Whether a bar at the end of a row closes it. -/
def hasClosingBar (row : Text) : Bool :=
  1 < row.length && row.getLast? == some '|'

/-- The cells of a row without blanks around it. -/
def trimmedRow? (row : Text) : Option (List Text) :=
  if row.head? = some '|' then
    (barCells? row).map fun cells => if hasClosingBar row then cells.dropLast else cells
  else
    none

def row? (line : Text) : Option (List Text) :=
  trimmedRow? (Text.trim line)

/-- The first run of present values. -/
def firstRun : List (Option α) → List α
  | [] => []
  | none :: rest => firstRun rest
  | some value :: rest => value :: (rest.takeWhile Option.isSome).filterMap id

def grid (source : Text) : Grid :=
  Grid.ofRows (firstRun ((Text.lines source).map row?))

end ChessDiagram.Notation
