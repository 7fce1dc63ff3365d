import ChessDiagram.Proofs.Drawing.Feedless
import ChessDiagram.Proofs.Notation.Values
import ChessDiagram.Proofs.Render.Boards

/-!
# The lines of rendered sources

The free texts of a source are values of its lines, so that whatever a source renders to consists of
lines that begin with the opening bracket of a tag, with and without escaping.
-/

namespace ChessDiagram.Config

theorem feedless_board {config : Config} {diagram : Diagram} {board : Markup}
    (drawn : config.board diagram = .ok board) : board.Feedless := by
  obtain ⟨palette, rfl⟩ := exists_eq_document_of_board drawn
  exact Board.feedless_document _ _ _

theorem exists_board_of_renderFragment {config : Config} {diagram : Diagram} {fragment : Text}
    (rendered : config.renderFragment diagram = .ok fragment) :
    ∃ board, config.board diagram = .ok board ∧
      fragment = (Fragment.assemble diagram.settings config.escape board).text := by
  unfold renderFragment at rendered
  cases drawn : config.board diagram with
  | error failure =>
      rw [drawn] at rendered
      cases rendered
  | ok board =>
      rw [drawn] at rendered
      exact ⟨board, rfl, (Except.ok.inj rendered).symm⟩

theorem tagLines_render {config : Config} {source fragment : Text}
    (rendered : config.render source = .ok fragment) : Text.TagLines fragment := by
  obtain ⟨board, drawn, rfl⟩ := exists_board_of_renderFragment rendered
  refine Markup.tagLines_text (Fragment.feedless_assemble config.escape ?_ ?_ ?_
    (feedless_board drawn))
  all_goals exact Notation.feed_notMem_value source _

theorem exists_renderFragment_escape (escape : Bool) (diagram : Diagram) :
    ∃ fragment, Config.renderFragment { escape } diagram = .ok fragment := by
  have lightTone : Config.tone { escape } .light = .ok none := rfl
  have darkTone : Config.tone { escape } .dark = .ok none := rfl
  have canvas : ({ escape } : Config).canvas.isPositive = true := by cases escape <;> decide +kernel
  unfold renderFragment
  rw [board_eq_document lightTone darkTone canvas]
  exact ⟨_, rfl⟩

theorem exists_renderFragment_default (diagram : Diagram) :
    ∃ fragment, Config.renderFragment {} diagram = .ok fragment :=
  exists_renderFragment_escape true diagram

theorem exists_render_default (source : Text) :
    ∃ fragment, Config.render {} source = .ok fragment :=
  exists_renderFragment_default (Notation.diagram source)

end ChessDiagram.Config
