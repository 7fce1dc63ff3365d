import ChessDiagram.Text.Basic

/-!
# Escaped text

Three characters of free text would be read as markup: `&`, `<` and `>`.  Escaping replaces them,
one after the other and the ampersand first, by the references `&amp;`, `&lt;` and `&gt;`.
-/

namespace ChessDiagram.Text

/-- The text with every occurrence of a character replaced. -/
def replaceChar (target : Char) (replacement text : Text) : Text :=
  text.flatMap fun character => if character = target then replacement else [character]

def escape (text : Text) : Text :=
  replaceChar '>' "&gt;" (replaceChar '<' "&lt;" (replaceChar '&' "&amp;" text))

end ChessDiagram.Text
