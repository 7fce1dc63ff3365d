import ChessDiagram.Proofs.Grid.Padding
import ChessDiagram.Proofs.Notation.Rows
import ChessDiagram.Proofs.Text.Joined

/-!
# Reading grids back

The grid of a source is that of the first run of rows among its lines.  Rows that are written with
bars around all cells are such a run, whatever lines stand before them and behind them, so that
every grid that some source has is the grid of its own rows.
-/

namespace ChessDiagram

namespace Notation

theorem firstRun_append_of_none {front : List (Option α)} (absent : ∀ value ∈ front, value = none)
    (rest : List (Option α)) : firstRun (front ++ rest) = firstRun rest := by
  induction front with
  | nil => rfl
  | cons value front induction =>
      obtain ⟨rfl, others⟩ := List.forall_mem_cons.mp absent
      exact induction others

/-- A run of present values ends where a value is missing. -/
theorem firstRun_map_some {values : List α} (nonempty : values ≠ []) {rest : List (Option α)}
    (stops : ∀ value ∈ rest.head?, value = none) :
    firstRun (values.map some ++ rest) = values := by
  obtain ⟨first, others, rfl⟩ := List.exists_cons_of_ne_nil nonempty
  have missing : rest.takeWhile Option.isSome = [] := by
    cases rest with
    | nil => rfl
    | cons value rest =>
        obtain rfl := stops value rfl
        rfl
  have present : ∀ value ∈ others.map some, value.isSome = true := by simp
  rw [List.map_cons, List.cons_append, firstRun, List.takeWhile_append_of_pos present, missing,
    List.append_nil]
  simp

theorem mem_of_mem_firstRun {values : List (Option α)} {value : α}
    (member : value ∈ firstRun values) : some value ∈ values := by
  induction values with
  | nil => cases member
  | cons first values induction =>
      cases first with
      | none => exact List.mem_cons_of_mem _ (induction member)
      | some found =>
          rcases List.mem_cons.mp member with rfl | later
          · exact List.mem_cons_self
          · obtain ⟨inside, insideMember, rfl⟩ := List.mem_filterMap.mp later
            exact List.mem_cons_of_mem _ ((List.takeWhile_sublist _).mem insideMember)

/-- Written rows are read as the first run of rows, whatever stands before the run and behind it. -/
theorem grid_join (before after : List Text) {rows : List (List Text)}
    (noRowBefore : ∀ line ∈ before, '\n' ∉ line ∧ row? line = none) (nonempty : rows ≠ [])
    (rowsValid : ∀ row ∈ rows, row ≠ [] ∧ ∀ cell ∈ row, IsCell cell)
    (noRowBehind : ∀ line ∈ after.head?, '\n' ∉ line ∧ row? line = none) :
    grid (Text.join "\n" (before ++ rows.map rowText ++ after)) = Grid.ofRows rows := by
  have noFeed : ∀ line ∈ before ++ rows.map rowText, '\n' ∉ line := by
    intro line member
    rcases List.mem_append.mp member with inFront | written
    · exact (noRowBefore line inFront).1
    · obtain ⟨row, rowMember, rfl⟩ := List.mem_map.mp written
      exact feed_notMem_rowText (rowsValid row rowMember).2
  have last : ∀ line ∈ (before ++ rows.map rowText).getLast?, line ≠ [] := by
    obtain ⟨row, lastRow⟩ : ∃ row, rows.getLast? = some row :=
      ⟨rows.getLast nonempty, List.getLast?_eq_some_getLast nonempty⟩
    intro line member
    rw [List.getLast?_append, List.getLast?_map, lastRow] at member
    obtain rfl := Option.some.inj member
    exact List.cons_ne_nil _ _
  obtain ⟨rest, whole, stops⟩ :=
    Text.exists_map_lines_join row?_withoutReturn noFeed last noRowBehind
  have absent : ∀ value ∈ before.map row?, value = none := by
    intro value member
    obtain ⟨line, lineMember, rfl⟩ := List.mem_map.mp member
    exact (noRowBefore line lineMember).2
  have read : (rows.map rowText).map row? = rows.map some := by
    rw [List.map_map]
    exact List.map_congr_left fun row member =>
      row?_rowText (rowsValid row member).1 (rowsValid row member).2
  rw [grid, whole, List.map_append, List.append_assoc, firstRun_append_of_none absent, read,
    firstRun_map_some nonempty stops]

theorem isCell_of_mem_grid {text : Text} {row : List Text} (member : row ∈ (grid text).rows)
    {cell : Text} (cellMember : cell ∈ row) : IsCell cell := by
  rcases Grid.cell_of_mem_ofRows member cellMember with rfl | ⟨source, sourceMember, inSource⟩
  · exact .nil
  · obtain ⟨line, -, read⟩ := List.mem_map.mp (mem_of_mem_firstRun sourceMember)
    exact isCell_of_row? read cell inSource

/-- Every grid that is read is read again from its own rows. -/
theorem grid_join_rows_grid (text : Text) :
    grid (Text.join "\n" ((grid text).rows.map rowText)) = grid text := by
  have rowsValid : ∀ row ∈ (grid text).rows, row ≠ [] ∧ ∀ cell ∈ row, IsCell cell := by
    intro row member
    constructor
    · rintro rfl
      have empty := (grid text).row_length [] member
      exact absurd (grid text).width_pos (by simp [← empty])
    · exact fun cell => isCell_of_mem_grid member
  have written := grid_join [] [] (by simp) (grid text).rows_ne_nil rowsValid (by simp)
  rw [List.nil_append, List.append_nil] at written
  rw [written, Grid.ofRows_rows]

theorem grid_of_noRow {text : Text} (noRow : ∀ line ∈ Text.lines text, row? line = none) :
    grid text = Grid.single := by
  have absent : ∀ value ∈ (Text.lines text).map row?, value = none := by
    intro value member
    obtain ⟨line, lineMember, rfl⟩ := List.mem_map.mp member
    exact noRow line lineMember
  have nothing := firstRun_append_of_none absent []
  rw [List.append_nil] at nothing
  rw [grid, nothing]
  rfl

/-- Rows of any lengths that are written with bars around all cells are read back, and nothing else
is, from a source in which they are the first run of rows.  The other way round, all cells of every
grid that is read could have been written in this way, the grid is read again from its own rows, and
without a row there is a single empty cell. -/
theorem grid_join_rows :
    (∀ (before : List Text) (rows : List (List Text)) (after : List Text),
      (∀ line ∈ before, '\n' ∉ line ∧ row? line = none) →
      rows ≠ [] → (∀ row ∈ rows, row ≠ [] ∧ ∀ cell ∈ row, IsCell cell) →
      (∀ line ∈ after.head?, '\n' ∉ line ∧ row? line = none) →
      grid (Text.join "\n" (before ++ rows.map rowText ++ after)) = Grid.ofRows rows) ∧
    ∀ text : Text,
      (∀ row ∈ (grid text).rows, ∀ cell ∈ row, IsCell cell) ∧
      grid (Text.join "\n" ((grid text).rows.map rowText)) = grid text ∧
      ((∀ line ∈ Text.lines text, row? line = none) →
        (grid text).width = 1 ∧ (grid text).rows = [[[]]]) := by
  constructor
  · intro before rows after noRowBefore nonempty rowsValid noRowBehind
    exact grid_join before after noRowBefore nonempty rowsValid noRowBehind
  · intro text
    refine ⟨?_, grid_join_rows_grid text, ?_⟩
    · intro row member cell cellMember
      exact isCell_of_mem_grid member cellMember
    · intro noRow
      rw [grid_of_noRow noRow]
      exact ⟨rfl, rfl⟩

/-- Rows of empty cells and rows of several lengths, with another row behind the run. -/
theorem grid_join_rows_emptyCells :
    grid (Text.join "\n" ["title |", "||", "|kl||", "|||", "end", "|qd|"]) =
        Grid.ofRows [[""], ["kl", ""], ["", ""]] ∧
      (Grid.ofRows [[""], ["kl", ""], ["", ""]]).rows =
        ([["", ""], ["kl", ""], ["", ""]] : List (List Text)) := by
  refine ⟨grid_join_rows.1 ["title |"] [[""], ["kl", ""], ["", ""]] ["end", "|qd|"] ?_ ?_ ?_ ?_,
    rfl⟩
  all_goals decide

end Notation

end ChessDiagram
