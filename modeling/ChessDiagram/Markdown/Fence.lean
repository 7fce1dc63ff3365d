import ChessDiagram.Text.Blank

/-!
# Fences and containers

Two kinds of lines open a block.  A container opens with three or more colons and the word `chess`
and closes with three or more colons.  A fence opens with three or more backticks or tildes and
closes with at least as many of the same; it holds a diagram when the first word behind it, its
language, contains `chess` as an ASCII word in any case, and code otherwise.

All of this is said of the content of a line, which is the line without its end.
-/

namespace ChessDiagram.Markdown

/-- The word that marks a diagram block. -/
def diagramWord : Text := "chess"

inductive Marker where
  | backtick
  | tilde
deriving DecidableEq

namespace Marker

def character : Marker → Char
  | .backtick => '`'
  | .tilde => '~'

def ofCharacter? (character : Char) : Option Marker :=
  if character = '`' then some .backtick
  else if character = '~' then some .tilde
  else none

end Marker

/-- An opened fence: its marker, the count of markers, and the text behind them. -/
structure Fence where
  marker : Marker
  length : Nat
  info : Text
deriving DecidableEq

/-- The run of a character at the start of a text, when it has the least length. -/
def run? (character : Char) (least : Nat) (text : Text) : Option (Text × Text) :=
  let run := text.takeWhile (· == character)
  if least ≤ run.length then some (run, text.dropWhile (· == character)) else none

/-- The fence that a line opens. -/
def fence? (content : Text) : Option Fence := do
  let start := Text.skipGap content
  let marker ← start.head?.bind Marker.ofCharacter?
  let (run, info) ← run? marker.character 3 start
  return { marker, length := run.length, info }

namespace Fence

def language (fence : Fence) : Text :=
  Text.firstWord fence.info

/-- Whether a fence holds a diagram. -/
def isDiagram (fence : Fence) : Bool :=
  (Text.pieces (fun character => !Text.isWordChar character) fence.language).any
    (Text.agrees diagramWord)

/-- Whether a line closes a fence. -/
def isClosedBy (fence : Fence) (content : Text) : Bool :=
  match run? fence.marker.character fence.length (Text.skipGap content) with
  | some (_, rest) => (Text.skipGap rest).isEmpty
  | none => false

end Fence

/-- What follows the colons of a line that starts with at least three. -/
def afterColons? (content : Text) : Option Text :=
  (run? ':' 3 (Text.skipGap content)).map fun (_, rest) => Text.skipGap rest

def opensContainer (content : Text) : Bool :=
  match (afterColons? content).bind (Text.afterExact? diagramWord) with
  | some rest => (Text.skipGap rest).isEmpty
  | none => false

def closesContainer (content : Text) : Bool :=
  afterColons? content == some []

end ChessDiagram.Markdown
