import ChessDiagram.Config.Basic
import ChessDiagram.Diagram
import ChessDiagram.Drawing.Board
import ChessDiagram.Failure
import ChessDiagram.Fragment
import ChessDiagram.Notation.Source

/-!
# Rendering

A diagram is rendered under a configuration, either as a bare board or as a fragment.  Only the
configuration can make it fail: a tone that is no colour, the light one first, or else a canvas that
is not a positive number.
-/

namespace ChessDiagram

/-- Why a configuration renders nothing. -/
inductive RenderError where
  | tone (error : ToneError)
  | canvas (width : Binary32)

namespace RenderError

def failure : RenderError → Failure
  | .tone error => .configuration error.message
  | .canvas width =>
      .export ("Render error: canvas size must be a positive number, got " ++ width.text)

end RenderError

namespace Config

def board (config : Config) (diagram : Diagram) : Except RenderError Markup := do
  let palette ← (config.override (.ofTheme diagram.settings.theme)).mapError .tone
  match Board.draw? diagram.grid palette config.canvas with
  | some document => return document
  | none => throw (.canvas config.canvas)

def renderBoard (config : Config) (diagram : Diagram) : Except RenderError Text :=
  (config.board diagram).map Markup.text

def renderFragment (config : Config) (diagram : Diagram) : Except RenderError Text :=
  (config.board diagram).map fun board =>
    (Fragment.assemble diagram.settings config.escape board).text

/-- The fragment of the diagram that a source text describes. -/
def render (config : Config) (source : Text) : Except RenderError Text :=
  config.renderFragment (Notation.diagram source)

end Config

end ChessDiagram
