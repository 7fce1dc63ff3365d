import ChessDiagram.Notation.Source
import ChessDiagram.Proofs.Notation.Keywords
import ChessDiagram.Proofs.Notation.Rows
import ChessDiagram.Proofs.Text.LineEnds

/-!
# Line ends in sources

A setting and a row are read off a line alike with and without a carriage return at its end, and
neither is read off an empty line.  A source is therefore read off what stands between its line
feeds, and nothing depends on how its lines end.
-/

namespace ChessDiagram.Notation

theorem firstRun_append_none (values : List (Option α)) :
    firstRun (values ++ [none]) = firstRun values := by
  induction values with
  | nil => rfl
  | cons value values induction =>
      cases value with
      | none => exact induction
      | some found =>
          have run : (values ++ [none]).takeWhile Option.isSome =
              values.takeWhile Option.isSome := by
            rw [List.takeWhile_append]
            split
            · rename_i whole
              rw [List.takeWhile_cons_of_neg (by simp), List.append_nil,
                (List.takeWhile_prefix _).eq_of_length whole]
            · rfl
          rw [List.cons_append, firstRun, firstRun, run]

theorem value_eq_findSome?_splitOn (source : Text) (keyword : Keyword) :
    value source keyword.word =
      (((source.splitOn '\n').map (settingOn? keyword.word)).findSome? id).getD [] := by
  have lines : (Text.lines source).findSome? (settingOn? keyword.word) =
      ((Text.lines source).map (settingOn? keyword.word)).findSome? id := by
    rw [List.findSome?_map]
    rfl
  rw [value_eq_findSome?, lines]
  rcases Text.map_splitOn (settingOn?_withoutReturn keyword.word) (settingOn?_nil _) source with
    same | longer
  · rw [same]
  · rw [longer, List.findSome?_append]
    simp

theorem grid_eq_ofRows_splitOn (source : Text) :
    grid source = Grid.ofRows (firstRun ((source.splitOn '\n').map row?)) := by
  have empty : row? [] = none := rfl
  rcases Text.map_splitOn row?_withoutReturn empty source with same | longer
  · rw [grid, same]
  · rw [grid, longer, firstRun_append_none]

theorem diagram_congr {left right : Text}
    (values : ∀ keyword : Keyword, value right keyword.word = value left keyword.word)
    (grids : grid right = grid left) : diagram right = diagram left := by
  have sameSettings : settings right = settings left := by
    simp only [settings, theme, align, size, switch, values]
  rw [diagram, diagram, sameSettings, grids]

/-- A line feed at the end of a source adds nothing to it. -/
theorem diagram_append_feed (source : Text) : diagram (source ++ ['\n']) = diagram source := by
  have split : (source ++ ['\n']).splitOn '\n' = source.splitOn '\n' ++ [[]] :=
    List.splitOn_append_cons_self source []
  apply diagram_congr
  · intro keyword
    rw [value_eq_findSome?_splitOn, value_eq_findSome?_splitOn, split, List.map_append,
      List.findSome?_append, List.map_singleton, settingOn?_nil]
    simp
  · have empty : [([] : Text)].map row? = [none] := rfl
    rw [grid_eq_ofRows_splitOn, grid_eq_ofRows_splitOn, split, List.map_append, empty,
      firstRun_append_none]

/-- A source means the same with a carriage return in front of every line feed. -/
theorem diagram_crlf (source : Text) : diagram (Text.crlf source) = diagram source := by
  apply diagram_congr
  · intro keyword
    rw [value_eq_findSome?_splitOn, value_eq_findSome?_splitOn,
      Text.map_splitOn_crlf (settingOn?_withoutReturn keyword.word)]
  · rw [grid_eq_ofRows_splitOn, grid_eq_ofRows_splitOn, Text.map_splitOn_crlf row?_withoutReturn]

end ChessDiagram.Notation
