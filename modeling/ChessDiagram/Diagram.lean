import ChessDiagram.Grid
import ChessDiagram.Settings

/-!
# Diagrams

A diagram is a grid together with the settings under which it is shown.  The default diagram is a
single empty cell under the default settings.
-/

namespace ChessDiagram

structure Diagram where
  settings : Settings := {}
  grid : Grid := Grid.single
deriving DecidableEq

end ChessDiagram
