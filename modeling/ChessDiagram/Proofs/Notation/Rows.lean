import ChessDiagram.Notation.Row
import ChessDiagram.Proofs.Text.Lines
import ChessDiagram.Proofs.Text.Runs

/-!
# Reading rows back

A row that is written with bars around all cells is read as these cells: the bar at its end opens an
empty cell, and this cell is the one that is taken off again.  Whatever the form of a row, the cells
that are read from it can be written in this way.
-/

namespace ChessDiagram

namespace Text

theorem trim_append_of_isBlank {character : Char} (blank : isBlank character = true)
    (text : Text) : trim (text ++ [character]) = trim text := by
  rw [trim, trim, trimStart, List.dropWhile_append]
  split
  · rename_i nothing
    rw [trimStart, List.isEmpty_iff.mp nothing, List.dropWhile_cons_of_pos blank]
    rfl
  · exact dropEndWhile_append_of_pos _ blank

theorem trim_of_ends {text : Text} (start : StopsAt isBlank text)
    (last : ∀ character ∈ text.getLast?, isBlank character = false) : trim text = text := by
  rw [trim, trimStart, dropWhile_of_stopsAt start]
  exact trimEnd_of_getLast? last

end Text

namespace Notation

/-- A cell that a row can have. -/
structure IsCell (cell : Text) : Prop where
  short : cell.length ≤ cellWidth
  plain : ∀ character ∈ cell, character ≠ '|' ∧ Text.isBlank character = false

theorem isCellChar_iff {character : Char} :
    isCellChar character = true ↔ character ≠ '|' ∧ Text.isBlank character = false := by
  simp [isCellChar]

theorem isCell_iff {cell : Text} :
    IsCell cell ↔ cell.length ≤ cellWidth ∧ cell.all isCellChar = true := by
  simp only [List.all_eq_true, isCellChar_iff]
  constructor
  · intro isCell
    exact ⟨isCell.short, isCell.plain⟩
  · rintro ⟨short, plain⟩
    exact ⟨short, plain⟩

instance (cell : Text) : Decidable (IsCell cell) :=
  decidable_of_iff (cell.length ≤ cellWidth ∧ cell.all isCellChar = true) isCell_iff.symm

theorem IsCell.nil : IsCell [] where
  short := Nat.zero_le _
  plain := by simp

theorem isCell_takeCell (text : Text) : IsCell (takeCell text).1 where
  short := List.length_take_le _ _
  plain _ member :=
    isCellChar_iff.mp (List.mem_takeWhile_imp ((List.take_sublist _ _).mem member))

namespace IsCell

variable {cell : Text}

theorem isCellChar_of_mem (isCell : IsCell cell) :
    ∀ character ∈ cell, isCellChar character = true :=
  fun character member => isCellChar_iff.mpr (isCell.plain character member)

theorem not_isGap_of_mem (isCell : IsCell cell) : ∀ character ∈ cell, Text.isGap character = false :=
  fun character member => Text.not_isGap_of_not_isBlank (isCell.plain character member).2

theorem stopsAt_isGap (isCell : IsCell cell) : Text.StopsAt Text.isGap cell :=
  fun character member => isCell.not_isGap_of_mem character (List.mem_of_head? member)

end IsCell

/-- Nothing comes next, or a bar does. -/
def AtBar (text : Text) : Prop :=
  ∀ character ∈ text.head?, character = '|'

namespace AtBar

theorem nil : AtBar [] := by
  intro character member
  cases member

theorem bar (rest : Text) : AtBar ('|' :: rest) :=
  fun _ member => (Option.some.inj member).symm

theorem stopsAt {text : Text} (atBar : AtBar text) {among : Char → Bool}
    (outside : among '|' = false) : Text.StopsAt among text := by
  intro character member
  rw [atBar character member]
  exact outside

end AtBar

/-- A cell that ends at a bar or at the end, perhaps with gaps around it, is taken whole, and
nothing else is taken than the cell and the gaps. -/
theorem takeCell_append {before cell after rest : Text} (gapBefore : Text.GapOnly before)
    (isCell : IsCell cell) (gapAfter : Text.GapOnly after) (atBar : AtBar rest) :
    takeCell (before ++ (cell ++ after) ++ rest) = (cell, rest) := by
  have noGap : Text.skipGap rest = rest := Text.skipGap_of_stopsAt (atBar.stopsAt rfl)
  have behind : Text.skipGap (after ++ rest) = rest := by
    rw [Text.skipGap_append gapAfter, noGap]
  rw [List.append_assoc, List.append_assoc]
  by_cases empty : cell = []
  · have nothing : rest.takeWhile isCellChar = [] := Text.takeWhile_of_stopsAt (atBar.stopsAt rfl)
    subst cell
    simp only [takeCell, List.nil_append, Text.skipGap_append gapBefore, behind, nothing,
      List.take_nil, List.length_nil, List.drop_zero, noGap]
  · have start : Text.skipGap (before ++ (cell ++ (after ++ rest))) = cell ++ (after ++ rest) := by
      rw [Text.skipGap_append gapBefore]
      exact Text.skipGap_of_stopsAt (isCell.stopsAt_isGap.append empty _)
    have stops : Text.StopsAt isCellChar (after ++ rest) := by
      cases after with
      | nil => exact atBar.stopsAt rfl
      | cons first after =>
          have blank := Text.isBlank_of_isGap (gapAfter first List.mem_cons_self)
          simp [isCellChar, blank]
    simp only [takeCell, start, Text.takeWhile_run isCell.isCellChar_of_mem stops,
      List.take_of_length_le isCell.short, List.drop_left, behind]

theorem barCells?_bar (rest : Text) :
    barCells? ('|' :: rest) = (barCells? (takeCell rest).2).map ((takeCell rest).1 :: ·) := by
  rw [barCells?, if_pos rfl]

theorem isCell_of_barCells? {text : Text} {cells : List Text}
    (read : barCells? text = some cells) : ∀ cell ∈ cells, IsCell cell := by
  induction text using barCells?.induct generalizing cells with
  | case1 =>
      rw [barCells?] at read
      obtain rfl := Option.some.inj read
      simp
  | case2 rest induction =>
      rw [barCells?_bar] at read
      obtain ⟨others, othersRead, rfl⟩ := Option.map_eq_some_iff.mp read
      intro cell member
      rcases List.mem_cons.mp member with rfl | later
      · exact isCell_takeCell rest
      · exact induction othersRead cell later
  | case3 character rest noBar =>
      rw [barCells?, if_neg noBar] at read
      cases read

theorem isCell_of_row? {line : Text} {cells : List Text} (read : row? line = some cells) :
    ∀ cell ∈ cells, IsCell cell := by
  unfold row? trimmedRow? at read
  split at read
  · obtain ⟨opened, barsRead, rfl⟩ := Option.map_eq_some_iff.mp read
    have isCell := isCell_of_barCells? barsRead
    split
    · exact fun cell member => isCell cell ((List.dropLast_sublist opened).mem member)
    · exact isCell
  · cases read

theorem row?_withoutReturn (line : Text) : row? (Text.withoutReturn line) = row? line := by
  rcases Text.withoutReturn_eq_or line with same | longer
  · rw [same]
  · conv => rhs; rw [longer]
    rw [row?, row?, Text.trim_append_of_isBlank (by decide)]

/-- A row written with bars around all cells. -/
def rowText (cells : List Text) : Text :=
  '|' :: cells.flatMap fun cell => cell ++ ['|']

theorem rowText_cons (cell : Text) (cells : List Text) :
    rowText (cell :: cells) = '|' :: (cell ++ rowText cells) := by
  simp [rowText]

theorem getLast?_rowText (cells : List Text) : (rowText cells).getLast? = some '|' := by
  induction cells with
  | nil => rfl
  | cons cell cells induction =>
      rw [rowText_cons, List.getLast?_cons, List.getLast?_append, induction]
      rfl

theorem trim_rowText (cells : List Text) : Text.trim (rowText cells) = rowText cells := by
  have start : Text.StopsAt Text.isBlank (rowText cells) := Text.stopsAt_cons.mpr rfl
  apply Text.trim_of_ends start
  intro character member
  rw [getLast?_rowText] at member
  obtain rfl := Option.some.inj member
  rfl

/-- Every bar of a written row opens a cell, the last one an empty one. -/
theorem barCells?_rowText {cells : List Text} (isCell : ∀ cell ∈ cells, IsCell cell) :
    barCells? (rowText cells) = some (cells ++ [[]]) := by
  induction cells with
  | nil =>
      show barCells? ['|'] = some [[]]
      rw [barCells?_bar]
      show (barCells? []).map ([] :: ·) = some [[]]
      rw [barCells?]
      rfl
  | cons cell cells induction =>
      obtain ⟨first, behind⟩ := List.forall_mem_cons.mp isCell
      have noGap : Text.GapOnly [] := by simp [Text.GapOnly]
      have taken : takeCell (cell ++ rowText cells) = (cell, rowText cells) := by
        have ends := takeCell_append noGap first noGap (AtBar.bar _ : AtBar (rowText cells))
        rwa [List.nil_append, List.append_nil] at ends
      rw [rowText_cons, barCells?_bar, taken, induction behind]
      rfl

theorem row?_rowText {cells : List Text} (nonempty : cells ≠ [])
    (isCell : ∀ cell ∈ cells, IsCell cell) : row? (rowText cells) = some cells := by
  have bar : (rowText cells).head? = some '|' := rfl
  have long : 1 < (rowText cells).length := by
    obtain ⟨cell, others, rfl⟩ := List.exists_cons_of_ne_nil nonempty
    simp only [rowText, List.flatMap_cons, List.length_cons, List.length_append]
    omega
  have closed : hasClosingBar (rowText cells) = true := by
    simp [hasClosingBar, long, getLast?_rowText]
  rw [row?, trim_rowText, trimmedRow?, if_pos bar, barCells?_rowText isCell, Option.map_some,
    if_pos closed, List.dropLast_concat]

theorem feed_notMem_rowText {cells : List Text} (isCell : ∀ cell ∈ cells, IsCell cell) :
    '\n' ∉ rowText cells := by
  intro feed
  rcases List.mem_cons.mp feed with bar | inside
  · exact absurd bar (by decide)
  · obtain ⟨cell, member, cellFeed⟩ := List.mem_flatMap.mp inside
    rcases List.mem_append.mp cellFeed with inCell | bar
    · exact absurd ((isCell cell member).plain _ inCell).2 (by decide)
    · exact absurd (List.mem_singleton.mp bar) (by decide)

end Notation

end ChessDiagram
