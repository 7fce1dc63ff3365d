import ChessDiagram.Proofs.Render.Lines

/-!
# Boards in fragments

A fragment is the text of the bare board between two texts.  What stands before the board depends on
alignment, size and title alone, what stands behind it on moves and notes, and both on whether free
text is escaped.  The board depends on neither of these.
-/

namespace ChessDiagram

namespace Fragment

/-- The text of a fragment before its board. -/
def before (align : Align) (size : BoardSize) (title : Text) (escape : Bool) : Text :=
  wrapperLine ++ "\n" ++ frameLine size align ++ "\n" ++ headingLine escape title ++ "\n"

/-- The text of a fragment behind its board. -/
def behind (moves notes : Text) (escape : Bool) : Text :=
  "\n" ++ paragraphLine escape moves ++ "\n" ++ paragraphLine escape notes ++ "\n" ++ closingLine
    ++ "\n" ++ closingLine

theorem text_assemble_eq_surround (settings : Settings) (escape : Bool) (board : Markup) :
    (assemble settings escape board).text =
      before settings.align settings.size settings.title escape ++ board.text
        ++ behind settings.moves settings.notes escape := by
  rw [text_assemble, frame_eq_lines]
  simp [before, behind]

end Fragment

namespace Config

/-- Whether free text is escaped makes no difference to a board. -/
theorem board_congr_config {config other : Config} (canvas : other.canvas = config.canvas)
    (light : other.lightSquare = config.lightSquare) (dark : other.darkSquare = config.darkSquare)
    (diagram : Diagram) : other.board diagram = config.board diagram := by
  obtain ⟨_, _, _, _⟩ := config
  obtain ⟨_, _, _, _⟩ := other
  subst canvas light dark
  rfl

/-- A fragment is the bare board between texts that depend on neither the grid nor the theme, and it
fails with the error of the board.  The board depends on the grid and the theme alone, and of the
configuration on the canvas and the tones. -/
theorem renderFragment_eq_surround :
    (∀ (config : Config) (diagram : Diagram),
      config.renderFragment diagram =
        (config.renderBoard diagram).map fun (board : Text) =>
          Fragment.before diagram.settings.align diagram.settings.size diagram.settings.title
              config.escape
            ++ board
            ++ Fragment.behind diagram.settings.moves diagram.settings.notes config.escape) ∧
      ∀ (config other : Config) (left right : Diagram),
        other.canvas = config.canvas → other.lightSquare = config.lightSquare →
        other.darkSquare = config.darkSquare → right.grid = left.grid →
        right.settings.theme = left.settings.theme →
        other.renderBoard right = config.renderBoard left := by
  constructor
  · intro config diagram
    unfold renderFragment renderBoard
    cases config.board diagram with
    | error failure => rfl
    | ok board =>
        exact congrArg Except.ok
          (Fragment.text_assemble_eq_surround diagram.settings config.escape board)
  · intro config other left right canvas light dark grid theme
    rw [renderBoard, renderBoard, board_congr_config canvas light dark,
      config.board_congr grid theme]

/-- Two diagrams and two configurations with one board. -/
theorem renderFragment_eq_surround_switches :
    ∃ board,
      Config.renderBoard {} { settings := { title := "opening", letters := true } } = .ok board ∧
        Config.renderBoard { escape := false } { settings := { moves := "<b>", align := .left } } =
          .ok board ∧
        Config.renderFragment { escape := false }
            { settings := { moves := "<b>", align := .left } } =
          .ok (Fragment.before .left { magnitude := 50, unit := .percent } [] false ++ board
            ++ Fragment.behind "<b>" [] false) := by
  obtain ⟨around, same⟩ := renderFragment_eq_surround
  obtain ⟨fragment, rendered⟩ :=
    exists_renderFragment_default { settings := { title := "opening", letters := true } }
  obtain ⟨board, drawn, -⟩ := exists_board_of_renderFragment rendered
  have first : Config.renderBoard {} { settings := { title := "opening", letters := true } } =
      .ok board.text := by
    rw [renderBoard, drawn]
    rfl
  have second : Config.renderBoard { escape := false }
      { settings := { moves := "<b>", align := .left } } = .ok board.text := by
    rw [← first]
    exact same _ _ _ _ rfl rfl rfl rfl rfl
  refine ⟨board.text, first, second, ?_⟩
  rw [around, second]
  rfl

end Config

end ChessDiagram
