import ChessDiagram.Markup
import ChessDiagram.Settings
import ChessDiagram.Text.Capital
import ChessDiagram.Text.Escape

/-!
# Fragments

A fragment is a board with its title above and its moves and notes below, in a frame of the size and
alignment that the settings ask for.  Free text is escaped unless the configuration says otherwise;
the words of the title are capitalised first.
-/

namespace ChessDiagram.Fragment

def wrapperClass : Text := "chess"

def wrapperStyle : Text := "text-align: center; margin: auto; display: block;"

def titleStyle : Text := "text-transform: capitalize"

/-- The style of the frame around the board and its texts. -/
def frameStyle (size : BoardSize) (align : Align) : Text :=
  "width: " ++ size.text
    ++ "; margin: 0 auto; border: 1px solid #666564; background: #312e2b; float: "
    ++ align.spelling ++ "; clear: both;"

/-- Free text as it is written into a fragment. -/
def freeText (escape : Bool) (text : Text) : Text :=
  if escape then Text.escape text else text

def assemble (settings : Settings) (escape : Bool) (board : Markup) : Markup :=
  let title := freeText escape (Text.capitalizeWords settings.title)
  .node "div" [("class", wrapperClass), ("style", wrapperStyle)] [
    .node "div" [("style", frameStyle settings.size settings.align)] [
      .inline "h3" [("style", titleStyle)] title,
      board,
      .inline "p" [] (freeText escape settings.moves),
      .inline "p" [] (freeText escape settings.notes)]]

end ChessDiagram.Fragment
