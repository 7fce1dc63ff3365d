import ChessDiagram.Proofs.Color.OneLine
import ChessDiagram.Proofs.Drawing.Texts
import ChessDiagram.Proofs.Markup.TagLines

/-!
# Drawings and fragments without line feeds

Everything that is written into a board is a name, a number or a colour, and stands on one line.  A
fragment adds the free texts of the settings, so that it is without line feeds when they are.
-/

namespace ChessDiagram

open Markup

theorem PieceKind.feed_notMem_paths (kind : PieceKind) : ∀ path ∈ kind.paths, '\n' ∉ path := by
  intro path member feed
  exact absurd (kind.isPathChar_of_mem_paths path member _ feed) (by decide)

namespace Piece

@[simp] theorem feed_notMem_glyphName (piece : Piece) : '\n' ∉ piece.glyphName := by
  obtain ⟨kind, side⟩ := piece
  cases kind <;> cases side <;> decide

end Piece

namespace Board

@[simp] theorem feed_notMem_pathText (commands : List PathCommand) :
    '\n' ∉ pathText commands := by
  apply Text.feed_notMem_join (by simp)
  intro text member
  obtain ⟨command, -, rfl⟩ := List.mem_map.mp member
  cases command <;> simp [PathCommand.text]

theorem feedless_document (grid : Grid) (palette : Palette) (canvas : Binary32) :
    (document grid palette canvas).Feedless := by
  apply textsHave_document (by decide)
  constructor
  case fixed => decide
  case glyphPath => exact PieceKind.feed_notMem_paths
  all_goals simp

end Board

namespace Fragment

theorem feed_notMem_freeText {text : Text} (noFeed : '\n' ∉ text) (escape : Bool) :
    '\n' ∉ freeText escape text := by
  cases escape with
  | true => exact Text.feed_notMem_escape noFeed
  | false => exact noFeed

theorem feed_notMem_frameStyle (size : BoardSize) (align : Align) :
    '\n' ∉ frameStyle size align := by
  have unit : '\n' ∉ size.unit.spelling := by cases size.unit <;> decide
  have side : '\n' ∉ align.spelling := by cases align <;> decide
  unfold frameStyle BoardSize.text
  simp only [List.mem_append, not_or]
  refine ⟨⟨⟨⟨?_, Text.feed_notMem_decimal _, unit⟩, ?_⟩, side⟩, ?_⟩ <;> decide +kernel

theorem feedless_assemble {settings : Settings} {board : Markup} (escape : Bool)
    (title : '\n' ∉ settings.title) (moves : '\n' ∉ settings.moves)
    (notes : '\n' ∉ settings.notes) (boardFeedless : board.Feedless) :
    (assemble settings escape board).Feedless := by
  have styles : '\n' ∉ wrapperClass ∧ '\n' ∉ wrapperStyle ∧ '\n' ∉ titleStyle := by
    decide +kernel
  apply textsHave_assemble (by decide) _
    (feed_notMem_freeText (Text.feed_notMem_capitalizeWords title) escape)
    (feed_notMem_freeText moves escape) (feed_notMem_freeText notes escape) boardFeedless
  simp [styles, feed_notMem_frameStyle]

end Fragment

end ChessDiagram
