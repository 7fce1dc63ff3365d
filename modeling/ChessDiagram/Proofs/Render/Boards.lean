import ChessDiagram.Render

/-!
# What a board depends on

A board is the drawing of a grid.  Of the settings it depends on the theme alone, and of the
configuration on the tones and the canvas.
-/

namespace ChessDiagram.Config

theorem board_congr (config : Config) {left right : Diagram} (grid : right.grid = left.grid)
    (theme : right.settings.theme = left.settings.theme) :
    config.board right = config.board left := by
  unfold Config.board
  rw [grid, theme]

theorem exists_eq_document_of_board {config : Config} {diagram : Diagram} {board : Markup}
    (drawn : config.board diagram = .ok board) :
    ∃ palette, board = Board.document diagram.grid palette config.canvas := by
  unfold Config.board at drawn
  simp only [bind, Except.bind] at drawn
  split at drawn
  · cases drawn
  · rename_i palette _
    unfold Board.draw? at drawn
    split at drawn
    · rename_i document found
      split at found
      · obtain rfl := Option.some.inj found
        exact ⟨palette, (Except.ok.inj drawn).symm⟩
      · cases found
    · cases drawn

/-- A configuration with tones that are colours and a canvas that can be drawn on draws every
diagram, with its tones in place of those of the theme. -/
theorem board_eq_document {config : Config} {light dark : Option Color}
    (lightTone : config.tone .light = .ok light) (darkTone : config.tone .dark = .ok dark)
    (canvas : config.canvas.isPositive = true) (diagram : Diagram) :
    config.board diagram =
      .ok (Board.document diagram.grid
        { light := light.getD (Palette.ofTheme diagram.settings.theme).light
          dark := dark.getD (Palette.ofTheme diagram.settings.theme).dark }
        config.canvas) := by
  unfold Config.board Config.override Board.draw?
  simp only [lightTone, darkTone, if_pos canvas]
  rfl

end ChessDiagram.Config
