import ChessDiagram.Diagram
import ChessDiagram.Notation.Row
import ChessDiagram.Notation.Setting

/-!
# Source texts

Settings and grid are read independently of each other from the same lines; a line that is neither
is ignored.  Every text is therefore the source of some diagram.
-/

namespace ChessDiagram.Notation

def diagram (source : Text) : Diagram where
  settings := settings source
  grid := grid source

end ChessDiagram.Notation
