import ChessDiagram.Text.Basic

/-!
# Pieces

A piece has a kind and a side.  Its code is the letter of the kind followed by the letter of the
side; both letters are read in either ASCII case and written in lower case.
-/

namespace ChessDiagram

inductive PieceKind where
  | king
  | queen
  | rook
  | bishop
  | knight
  | pawn
deriving DecidableEq

inductive Side where
  | light
  | dark
deriving DecidableEq

structure Piece where
  kind : PieceKind
  side : Side
deriving DecidableEq

namespace PieceKind

/-- The kinds in the order in which their glyphs are defined. -/
def all : List PieceKind :=
  [.king, .queen, .rook, .bishop, .knight, .pawn]

def letter : PieceKind → Char
  | .king => 'k'
  | .queen => 'q'
  | .rook => 'r'
  | .bishop => 'b'
  | .knight => 'n'
  | .pawn => 'p'

def name : PieceKind → Text
  | .king => "King"
  | .queen => "Queen"
  | .rook => "Rook"
  | .bishop => "Bishop"
  | .knight => "Knight"
  | .pawn => "Pawn"

def ofLetter? (letter : Char) : Option PieceKind :=
  match Text.lowerChar letter with
  | 'k' => some .king
  | 'q' => some .queen
  | 'r' => some .rook
  | 'b' => some .bishop
  | 'n' => some .knight
  | 'p' => some .pawn
  | _ => none

theorem ofLetter?_letter (kind : PieceKind) : ofLetter? kind.letter = some kind := by
  cases kind <;> rfl

end PieceKind

namespace Side

def all : List Side :=
  [.light, .dark]

def letter : Side → Char
  | .light => 'l'
  | .dark => 'd'

def name : Side → Text
  | .light => "Light"
  | .dark => "Dark"

def opposite : Side → Side
  | .light => .dark
  | .dark => .light

def ofLetter? (letter : Char) : Option Side :=
  match Text.lowerChar letter with
  | 'l' => some .light
  | 'd' => some .dark
  | _ => none

theorem ofLetter?_letter (side : Side) : ofLetter? side.letter = some side := by
  cases side <;> rfl

end Side

namespace Piece

/-- The twelve pieces, the light side first. -/
def all : List Piece :=
  Side.all.flatMap fun side => PieceKind.all.map fun kind => { kind, side }

def code (piece : Piece) : Text :=
  [piece.kind.letter, piece.side.letter]

/-- The piece of a code of exactly two letters. -/
def ofCode? : Text → Option Piece
  | [kindLetter, sideLetter] => do
      let kind ← PieceKind.ofLetter? kindLetter
      let side ← Side.ofLetter? sideLetter
      return { kind, side }
  | _ => none

/-- The name under which a drawing defines and refers to the glyph of a piece. -/
def glyphName (piece : Piece) : Text :=
  "piece-" ++ piece.code

def name (piece : Piece) : Text :=
  piece.side.name ++ " " ++ piece.kind.name

theorem ofCode?_code (piece : Piece) : ofCode? piece.code = some piece := by
  simp [ofCode?, code, PieceKind.ofLetter?_letter, Side.ofLetter?_letter]

end Piece

end ChessDiagram
