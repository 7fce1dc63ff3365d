import ChessDiagram.Settings
import ChessDiagram.Text.Blank
import ChessDiagram.Text.Line

/-!
# Settings in a source text

A setting is a line with a keyword in any ASCII case, a gap and a value.  The first line with a
keyword decides, also when its value is empty or not understood; a value that is not understood
counts as the default.
-/

namespace ChessDiagram.Notation

inductive Keyword where
  | theme
  | align
  | size
  | title
  | notes
  | moves
  | letters
  | numbers
deriving DecidableEq

namespace Keyword

def word : Keyword → Text
  | .theme => "theme"
  | .align => "align"
  | .size => "size"
  | .title => "title"
  | .notes => "notes"
  | .moves => "moves"
  | .letters => "letters"
  | .numbers => "numbers"

end Keyword

/-- What follows a name and a gap on a line that starts with them, perhaps after a gap. -/
def valueOn? (name line : Text) : Option Text :=
  match Text.afterWord? name (Text.skipGap line) with
  | some (separator :: rest) =>
      if Text.isGap separator then some (Text.skipGap rest) else none
  | _ => none

/-- The value of the first line that sets a name, or the empty text. -/
def value (source name : Text) : Text :=
  match (Text.lines source).findSome? (valueOn? name) with
  | some found => Text.trimEnd found
  | none => []

def isUnitChar (character : Char) : Bool :=
  Text.isLetter character || character == '%'

/-- A size is a number, a gap that may be empty, and a unit. -/
def size? (text : Text) : Option BoardSize :=
  let start := Text.skipGap text
  let digits := start.takeWhile Text.isDigit
  let afterDigits := Text.skipGap (start.dropWhile Text.isDigit)
  let word := afterDigits.takeWhile isUnitChar
  let rest := Text.skipGap (afterDigits.dropWhile isUnitChar)
  if digits ≠ [] ∧ rest = [] then
    if small : Text.decimalValue digits < UInt32.size then
      (LengthUnit.ofSpelling? word).map fun unit =>
        { magnitude := UInt32.ofNatLT (Text.decimalValue digits) small, unit }
    else
      none
  else
    none

def theme (source : Text) : Theme :=
  (Theme.ofSpelling? (value source Keyword.theme.word)).getD .base

def align (source : Text) : Align :=
  (Align.ofSpelling? (value source Keyword.align.word)).getD .none

def size (source : Text) : BoardSize :=
  (size? (value source Keyword.size.word)).getD { magnitude := 50, unit := .percent }

/-- A switch is on when its value is `true` in any ASCII case. -/
def switch (source : Text) (keyword : Keyword) : Bool :=
  Text.agrees "true" (value source keyword.word)

def settings (source : Text) : Settings where
  theme := theme source
  align := align source
  size := size source
  title := value source Keyword.title.word
  notes := value source Keyword.notes.word
  moves := value source Keyword.moves.word
  letters := switch source .letters
  numbers := switch source .numbers

end ChessDiagram.Notation
