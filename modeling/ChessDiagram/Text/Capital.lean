import ChessDiagram.Text.Blank
import ChessDiagram.Text.Uppercase

/-!
# Capitalised words

A word starts at the beginning of a text and after every blank.  Capitalising writes the first
character of every word in upper case and leaves the rest of the word as it is.
-/

namespace ChessDiagram.Text

/-- Capitalises the words of a text that begins inside or outside a word. -/
def capitalizeFrom (atStart : Bool) : Text → Text
  | [] => []
  | character :: rest =>
      (if atStart then upperChar character else [character])
        ++ capitalizeFrom (isBlank character) rest

def capitalizeWords (text : Text) : Text :=
  capitalizeFrom true text

end ChessDiagram.Text
