import ChessDiagram.Render

/-!
# Validation of configurations

A configuration can be checked without a diagram.  The check finds the same causes that rendering
would find, but looks at the canvas first.
-/

namespace ChessDiagram

namespace Config

/-- Accepts the configurations under which every diagram can be rendered. -/
def validate (config : Config) : Except RenderError Unit := do
  unless config.canvas.isPositive do
    throw (.canvas config.canvas)
  let _ ← (config.tone .light).mapError .tone
  let _ ← (config.tone .dark).mapError .tone

end Config

namespace RenderError

def rejection (error : RenderError) : Failure :=
  .configuration <| "Validation error: " ++
    match error with
    | .tone error => error.message
    | .canvas width => "board.canvas_size must be a positive number, got " ++ width.text

end RenderError

end ChessDiagram
