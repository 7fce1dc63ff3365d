import ChessDiagram.Proofs.Notation.Rows
import ChessDiagram.Proofs.Text.LineEnds

/-!
# The fields of rows

The fields of a row are what stands behind its bars.  Cells are taken greedily, one bar after the
other, but a row is cut at its bars all the same: it is read exactly when every field is a cell with
gaps around it, and its cells are the fields without these gaps.
-/

namespace ChessDiagram

namespace Text

/-- The text without the gaps at its two ends. -/
def stripGap (text : Text) : Text :=
  dropEndWhile isGap (skipGap text)

theorem exists_append_stripGap (text : Text) :
    ∃ before after, GapOnly before ∧ GapOnly after ∧ text = before ++ (stripGap text ++ after) := by
  obtain ⟨before, gapBefore, whole⟩ := exists_gap_append_skipGap text
  obtain ⟨after, gapAfter, rest⟩ := exists_append_dropEndWhile isGap (skipGap text)
  refine ⟨before, after, gapBefore, gapAfter, ?_⟩
  rw [stripGap, ← rest, ← whole]

theorem stripGap_append {before core after : Text} (gapBefore : GapOnly before)
    (start : StopsAt isGap core) (last : ∀ character ∈ core.getLast?, isGap character = false)
    (gapAfter : GapOnly after) : stripGap (before ++ (core ++ after)) = core := by
  rw [stripGap, skipGap_append gapBefore]
  by_cases empty : core = []
  · subst core
    rw [List.nil_append, skipGap_eq_nil_iff.mpr gapAfter]
    rfl
  · rw [skipGap_of_stopsAt (start.append empty after), dropEndWhile_append_run core gapAfter,
      dropEndWhile_of_getLast? last]

end Text

namespace Notation

/-- A text is cut in one way into a part without bars and a rest that a bar starts. -/
theorem eq_of_append_eq_append {field inner rest left : Text} (noBar : '|' ∉ field)
    (noBarInside : '|' ∉ inner) (atBar : AtBar rest) (atBarLeft : AtBar left)
    (same : field ++ rest = inner ++ left) : field = inner := by
  have otherChars {text : Text} (unmarked : '|' ∉ text) :
      ∀ character ∈ text, (character != '|') = true := by
    intro character member
    exact bne_iff_ne.mpr fun bar => unmarked (bar ▸ member)
  have cut := congrArg (List.takeWhile (· != '|')) same
  rwa [Text.takeWhile_run (otherChars noBar) (atBar.stopsAt rfl),
    Text.takeWhile_run (otherChars noBarInside) (atBarLeft.stopsAt rfl)] at cut

theorem bar_notMem_of_gapOnly {text : Text} (gap : Text.GapOnly text) : '|' ∉ text :=
  fun member => absurd (gap _ member) (by decide)

namespace IsCell

variable {cell : Text}

theorem bar_notMem (isCell : IsCell cell) : '|' ∉ cell :=
  fun member => (isCell.plain _ member).1 rfl

theorem stripGap (isCell : IsCell cell) {before after : Text} (gapBefore : Text.GapOnly before)
    (gapAfter : Text.GapOnly after) : Text.stripGap (before ++ (cell ++ after)) = cell :=
  Text.stripGap_append gapBefore isCell.stopsAt_isGap
    (fun character member => isCell.not_isGap_of_mem character (List.mem_of_getLast? member)) gapAfter

end IsCell

/-- What is taken of a text is a cell with gaps around it, and nothing is lost. -/
theorem exists_of_takeCell (text : Text) :
    ∃ before after, Text.GapOnly before ∧ Text.GapOnly after ∧
      text = before ++ ((takeCell text).1 ++ after) ++ (takeCell text).2 := by
  obtain ⟨before, gapBefore, whole⟩ := Text.exists_gap_append_skipGap text
  have opening : (takeCell text).1 <+: Text.skipGap text :=
    (List.take_prefix _ _).trans (List.takeWhile_prefix _)
  obtain ⟨behind, start⟩ := opening
  obtain ⟨after, gapAfter, rest⟩ := Text.exists_gap_append_skipGap behind
  have left : (takeCell text).2 = Text.skipGap behind := by
    show Text.skipGap ((Text.skipGap text).drop (takeCell text).1.length) = _
    conv_lhs => rw [← start]
    rw [List.drop_left]
  refine ⟨before, after, gapBefore, gapAfter, ?_⟩
  rw [left, List.append_assoc, List.append_assoc, ← rest, start, ← whole]

theorem atBar_of_barCells? {text : Text} {cells : List Text} (read : barCells? text = some cells) :
    AtBar text := by
  cases text with
  | nil => exact .nil
  | cons character rest =>
      by_cases bar : character = '|'
      · subst character
        exact .bar rest
      · rw [barCells?, if_neg bar] at read
        cases read

section

variable {field rest : Text} (noBar : '|' ∉ field) (atBar : AtBar rest)
include noBar atBar

/-- A field is used up by taking a cell only if it is this cell with gaps around it. -/
theorem isCell_stripGap_of_atBar (usedUp : AtBar (takeCell (field ++ rest)).2) :
    IsCell (Text.stripGap field) := by
  obtain ⟨before, after, gapBefore, gapAfter, whole⟩ := exists_of_takeCell (field ++ rest)
  have isCell : IsCell (takeCell (field ++ rest)).1 := isCell_takeCell _
  have noBarInside : '|' ∉ before ++ ((takeCell (field ++ rest)).1 ++ after) := by
    simp only [List.mem_append, not_or]
    exact ⟨bar_notMem_of_gapOnly gapBefore, isCell.bar_notMem, bar_notMem_of_gapOnly gapAfter⟩
  rw [eq_of_append_eq_append noBar noBarInside atBar usedUp whole,
    isCell.stripGap gapBefore gapAfter]
  exact isCell

/-- The bar in front of a field opens one cell, the field without its gaps. -/
theorem barCells?_field :
    barCells? ('|' :: (field ++ rest)) =
      if IsCell (Text.stripGap field) then (barCells? rest).map (Text.stripGap field :: ·)
      else none := by
  rw [barCells?_bar]
  split
  case isTrue isCell =>
    obtain ⟨before, after, gapBefore, gapAfter, whole⟩ := Text.exists_append_stripGap field
    have taken : takeCell (field ++ rest) = (Text.stripGap field, rest) := by
      conv_lhs => rw [whole]
      exact takeCell_append gapBefore isCell gapAfter atBar
    rw [taken]
  case isFalse noCell =>
    rw [Option.map_eq_none_iff, Option.eq_none_iff_forall_ne_some]
    intro cells read
    exact noCell (isCell_stripGap_of_atBar noBar atBar (atBar_of_barCells? read))

end

/-- Taking cells one after the other reads what cutting at the bars gives. -/
theorem barCells?_eq_splitOn (text : Text) :
    barCells? ('|' :: text) =
      if ∀ field ∈ text.splitOn '|', IsCell (Text.stripGap field) then
        some ((text.splitOn '|').map Text.stripGap)
      else none := by
  induction text using Text.cutInduction '|' with
  | last field noBar =>
      have whole := barCells?_field noBar .nil
      have nothing : barCells? [] = some [] := by rw [barCells?]
      rw [List.append_nil, nothing] at whole
      rw [whole, List.splitOn_eq_singleton noBar]
      simp only [List.forall_mem_singleton]
      rfl
  | step field rest noBar induction =>
      rw [barCells?_field noBar (.bar rest), induction,
        List.splitOn_append_cons_self_of_not_mem noBar]
      simp only [List.forall_mem_cons]
      by_cases isCell : IsCell (Text.stripGap field)
      · simp only [isCell, true_and, if_true]
        split <;> rfl
      · simp only [isCell, false_and, if_false]

/-- What stands behind the bars of a row. -/
def fields (row : Text) : List Text :=
  (row.splitOn '|').tail

/-- The fields that are cells: all of them, but for the one behind a bar that ends a longer row. -/
def cellFields (row : Text) : List Text :=
  if 1 < row.length ∧ row.getLast? = some '|' then (fields row).dropLast else fields row

theorem map_cellFields (read : Text → α) (row : Text) :
    (cellFields row).map read =
      if hasClosingBar row then ((fields row).map read).dropLast else (fields row).map read := by
  simp only [cellFields, hasClosingBar, Bool.and_eq_true, decide_eq_true_eq, beq_iff_eq]
  split
  · rw [List.map_dropLast]
  · rfl

theorem row?_eq_fields (line : Text) :
    row? line =
      if (Text.trim line).head? = some '|' ∧
          ∀ field ∈ fields (Text.trim line), IsCell (Text.stripGap field) then
        some ((cellFields (Text.trim line)).map Text.stripGap)
      else none := by
  unfold row? trimmedRow?
  split
  case isFalse noBar => rw [if_neg fun both => noBar both.1]
  case isTrue bar =>
    obtain ⟨rest, whole⟩ := List.head?_eq_some_iff.mp bar
    have cut : fields ('|' :: rest) = rest.splitOn '|' := by
      rw [fields, ← List.nil_append ('|' :: rest),
        List.splitOn_append_cons_self_of_not_mem List.not_mem_nil]
      rfl
    rw [whole, barCells?_eq_splitOn, map_cellFields, cut]
    by_cases areCells : ∀ field ∈ rest.splitOn '|', IsCell (Text.stripGap field)
    · rw [if_pos areCells, if_pos ⟨rfl, areCells⟩]
      rfl
    · rw [if_neg areCells, if_neg fun both => areCells both.2]
      rfl

/-- A field has no bar, so that it is a cell as soon as it is short and without blanks. -/
theorem isCell_stripGap_iff {row field : Text} (member : field ∈ fields row) :
    IsCell (Text.stripGap field) ↔
      (Text.stripGap field).length ≤ 2 ∧
        ∀ character ∈ Text.stripGap field, Text.isBlank character = false := by
  constructor
  · intro isCell
    exact ⟨isCell.short, fun character inside => (isCell.plain character inside).2⟩
  · rintro ⟨short, noBlank⟩
    have noBar : '|' ∉ field := Text.notMem_of_mem_splitOn (List.mem_of_mem_tail member)
    have part : Text.stripGap field <+: Text.skipGap field := Text.prefix_dropEndWhile _ _
    refine ⟨short, fun character inside => ⟨?_, noBlank character inside⟩⟩
    rintro rfl
    exact noBar ((List.dropWhile_sublist _).mem (part.mem inside))

theorem length_fields (row : Text) : (fields row).length = row.count '|' := by
  rw [fields, List.length_tail, Text.length_splitOn]
  rfl

theorem length_cellFields (row : Text) :
    (cellFields row).length =
      row.count '|' - if 1 < row.length ∧ row.getLast? = some '|' then 1 else 0 := by
  unfold cellFields
  split
  · rw [List.length_dropLast, length_fields]
  · rw [length_fields]
    rfl

/-- A row that ends in a bar after its first one has two bars. -/
theorem cellFields_ne_nil {row : Text} (bar : row.head? = some '|') : cellFields row ≠ [] := by
  rw [← List.length_pos_iff, length_cellFields]
  obtain ⟨rest, rfl⟩ := List.head?_eq_some_iff.mp bar
  rw [List.count_cons_self]
  split
  case isTrue closed =>
    obtain ⟨long, last⟩ := closed
    obtain ⟨next, rest, rfl⟩ : ∃ next others, rest = next :: others := by
      apply List.exists_cons_of_ne_nil
      rintro rfl
      exact absurd long (by decide)
    rw [List.getLast?_cons_cons] at last
    have closing : 0 < (next :: rest).count '|' :=
      List.count_pos_iff.mpr (List.mem_of_getLast? last)
    omega
  case isFalse => omega

/-- A line is a row exactly when, without the blanks at its ends, it starts with a bar and every
field behind its bars is short and without blanks once the gaps around it are dropped.  The cells
are then these fields, without the last one when a bar ends a longer row. -/
theorem row?_splitOn :
    (∀ line : Text, (row? line).isSome = true ↔
      (Text.trim line).head? = some '|' ∧
        ∀ field ∈ ((Text.trim line).splitOn '|').tail,
          (Text.stripGap field).length ≤ 2 ∧
            ∀ character ∈ Text.stripGap field, Text.isBlank character = false) ∧
    ∀ (line : Text) (cells : List Text), row? line = some cells →
      cells = (cellFields (Text.trim line)).map Text.stripGap ∧
        cells ≠ [] ∧
        cells.length = (Text.trim line).count '|' -
          if 1 < (Text.trim line).length ∧ (Text.trim line).getLast? = some '|' then 1 else 0 := by
  constructor
  · intro line
    rw [row?_eq_fields, Option.isSome_ite]
    exact and_congr_right fun _ => forall₂_congr fun field member => isCell_stripGap_iff member
  · intro line cells read
    rw [row?_eq_fields, Option.ite_none_right_eq_some] at read
    obtain ⟨⟨bar, -⟩, same⟩ := read
    obtain rfl := Option.some.inj same
    refine ⟨rfl, ?_, ?_⟩
    · exact fun empty => cellFields_ne_nil bar (List.map_eq_nil_iff.mp empty)
    · rw [List.length_map, length_cellFields]

/-- Gaps around a cell, a cell that is no piece, an empty one, and a wide space behind the row. -/
theorem row?_splitOn_gaps :
    ∃ cells, row? "\t| kl\t|é||\u3000" = some cells ∧
      cells = (["kl", "é", ""] : List Text) ∧ cells.length = 4 - 1 := by
  have accepted : (row? "\t| kl\t|é||\u3000").isSome = true := by decide +kernel
  obtain ⟨cells, read⟩ := Option.isSome_iff_exists.mp accepted
  obtain ⟨same, -, length⟩ := row?_splitOn.2 _ cells read
  exact ⟨cells, read, same.trans (by decide +kernel), length.trans (by decide +kernel)⟩

end Notation

end ChessDiagram
