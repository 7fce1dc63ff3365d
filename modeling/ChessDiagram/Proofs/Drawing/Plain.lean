import ChessDiagram.Proofs.Drawing.Texts
import ChessDiagram.Proofs.Markup.Tags

/-!
# Drawings and fragments without brackets of their own

All names and keys in a drawing are fixed words without angle brackets, and a drawing has no inline
texts.  The inline texts of a fragment are free texts, which have no brackets left once they are
escaped.
-/

namespace ChessDiagram

open Markup

theorem Board.plain_document (grid : Grid) (palette : Palette) (canvas : Binary32) :
    (document grid palette canvas).Plain := by
  apply textsHave_document (by decide)
  constructor <;> simp

namespace Fragment

/-- A fragment whose free texts are escaped. -/
theorem plain_assemble (settings : Settings) {board : Markup} (boardPlain : board.Plain) :
    (assemble settings true board).Plain :=
  textsHave_assemble (by decide) (by simp) (Text.bracketless_escape _) (Text.bracketless_escape _)
    (Text.bracketless_escape _) boardPlain

/-- The tags of a fragment do not depend on its free texts. -/
theorem tags_assemble_congr {settings other : Settings} (align : other.align = settings.align)
    (size : other.size = settings.size) (escape : Bool) (board : Markup) :
    (assemble other escape board).tags = (assemble settings escape board).tags := by
  unfold assemble
  rw [align, size]
  rfl

end Fragment

end ChessDiagram
