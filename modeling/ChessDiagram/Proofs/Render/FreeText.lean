import ChessDiagram.Proofs.Drawing.Plain
import ChessDiagram.Proofs.Render.TagLines

/-!
# Free texts in fragments

A fragment is a frame with slots for its three free texts.  The frame depends on the size, the
alignment and the board alone.  Escaped texts leave the tags of the frame as they are: two diagrams
that differ in their free texts have fragments with the same tags.
-/

namespace ChessDiagram

namespace Fragment

open Markup

/-- The text of a fragment around the text of a board, with slots for the free texts. -/
def frame (size : BoardSize) (align : Align) (board title moves notes : Text) : Text :=
  "<div" ++ attributesText [("class", wrapperClass), ("style", wrapperStyle)] ++ ">\n<div"
    ++ attributesText [("style", frameStyle size align)] ++ ">\n<h3"
    ++ attributesText [("style", titleStyle)] ++ ">" ++ title ++ "</h3>\n" ++ board ++ "\n<p>"
    ++ moves ++ "</p>\n<p>" ++ notes ++ "</p>\n</div>\n</div>"

theorem text_assemble (settings : Settings) (escape : Bool) (board : Markup) :
    (assemble settings escape board).text =
      frame settings.size settings.align board.text
        (freeText escape (Text.capitalizeWords settings.title)) (freeText escape settings.moves)
        (freeText escape settings.notes) := by
  have ordered : assemble settings escape board =
      .element "div" [("class", wrapperClass), ("style", wrapperStyle)] [
        .element "div" [("style", frameStyle settings.size settings.align)] [
          .inline "h3" [("style", titleStyle)]
            (freeText escape (Text.capitalizeWords settings.title)),
          board,
          .inline "p" [] (freeText escape settings.moves),
          .inline "p" [] (freeText escape settings.notes)]] := rfl
  have none : attributesText [] = [] := rfl
  rw [ordered]
  unfold frame
  simp [text, childrenText, none]

/-- A fragment with the escaped texts of the settings in its slots, in which every bracket belongs
to a tag and every ampersand of a text opens a reference. -/
structure HoldsEscaped (settings : Settings) (board fragment : Text) : Prop where
  framed : fragment =
    frame settings.size settings.align board (Text.escape (Text.capitalizeWords settings.title))
      (Text.escape settings.moves) (Text.escape settings.notes)
  bracketsClose : Text.BracketsClose fragment
  ampersands : ∀ text ∈ [Text.capitalizeWords settings.title, settings.moves, settings.notes],
    Text.AmpersandsOpenReferences (Text.escape text)

theorem holdsEscaped_assemble (settings : Settings) {board : Markup} (boardPlain : board.Plain) :
    HoldsEscaped settings board.text (assemble settings true board).text where
  framed := text_assemble settings true board
  bracketsClose := (tagged_text (plain_assemble settings boardPlain)).bracketsClose
  ampersands := fun text _ => Text.ampersandsOpenReferences_escape text

end Fragment

namespace Config

theorem plain_board {config : Config} {diagram : Diagram} {board : Markup}
    (drawn : config.board diagram = .ok board) : board.Plain := by
  obtain ⟨palette, rfl⟩ := exists_eq_document_of_board drawn
  exact Board.plain_document _ _ _

/-- Where one diagram renders, so do all with the same grid, theme, alignment and size, and escaped
free texts make no difference to the tags: the fragments are the same text around the same board,
with texts in it that hold no brackets, and ampersands of references alone. -/
theorem tags_renderFragment {config : Config} (escapes : config.escape = true)
    {left right : Diagram} (grid : right.grid = left.grid)
    (theme : right.settings.theme = left.settings.theme)
    (align : right.settings.align = left.settings.align)
    (size : right.settings.size = left.settings.size)
    {fragment : Text} (rendered : config.renderFragment left = .ok fragment) :
    ∃ board other,
      config.renderBoard left = .ok board ∧
        config.renderFragment right = .ok other ∧
        Text.tags other = Text.tags fragment ∧
        Fragment.HoldsEscaped left.settings board fragment ∧
        Fragment.HoldsEscaped right.settings board other := by
  obtain ⟨board, drawn, rfl⟩ := exists_board_of_renderFragment rendered
  have otherDrawn : config.board right = .ok board := (config.board_congr grid theme).trans drawn
  have boardPlain := plain_board drawn
  have tags (settings : Settings) :
      Text.tags (Fragment.assemble settings true board).text =
        (Fragment.assemble settings true board).tags :=
    (Markup.tagged_text (Fragment.plain_assemble settings boardPlain)).tags_eq
  rw [escapes]
  refine ⟨board.text, (Fragment.assemble right.settings true board).text, ?_, ?_, ?_,
    Fragment.holdsEscaped_assemble _ boardPlain, Fragment.holdsEscaped_assemble _ boardPlain⟩
  · rw [renderBoard, drawn]
    rfl
  · rw [renderFragment, otherDrawn, escapes]
    rfl
  · rw [tags, tags, Fragment.tags_assemble_congr align size]

/-- Texts that close the paragraph and open other elements, beside none at all. -/
theorem tags_renderFragment_closingTag :
    ∃ board fragment other,
      Config.renderFragment {} { settings := { title := "<b>&amp;", notes := "</p>\n<script>" } } =
          .ok fragment ∧
        Config.renderFragment {} {} = .ok other ∧
        Text.tags other = Text.tags fragment ∧
        Fragment.HoldsEscaped { title := "<b>&amp;", notes := "</p>\n<script>" } board fragment ∧
        Fragment.HoldsEscaped {} board other := by
  obtain ⟨fragment, rendered⟩ := exists_renderFragment_default
    { settings := { title := "<b>&amp;", notes := "</p>\n<script>" } }
  obtain ⟨board, other, -, otherRendered, tags, held, otherHeld⟩ :=
    @tags_renderFragment {} rfl
      { settings := { title := "<b>&amp;", notes := "</p>\n<script>" } } {} rfl rfl rfl rfl
      fragment rendered
  exact ⟨board, fragment, other, rendered, otherRendered, tags, held, otherHeld⟩

end Config

end ChessDiagram
