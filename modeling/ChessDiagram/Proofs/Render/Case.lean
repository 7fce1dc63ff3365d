import ChessDiagram.Proofs.Drawing.Pieces
import ChessDiagram.Proofs.Notation.Case
import ChessDiagram.Render

/-!
# ASCII case of diagrams

Two sources that agree up to ASCII case are sources of diagrams that differ in the case of free
texts and of cells alone.  A cell shows the same piece in both cases, so that both have the same
board.  What is read in either case is in ASCII.
-/

namespace ChessDiagram

/-- The piece of a cell does not depend on its case. -/
theorem Piece.ofCode?_lower (cell : Text) : ofCode? (Text.lower cell) = ofCode? cell := by
  apply Option.ext
  intro piece
  rw [ofCode?_eq_some_iff, ofCode?_eq_some_iff, Text.agrees, Text.agrees, Text.lower_lower]

namespace Grid

theorem cell?_lower (grid : Grid) (x y : Nat) :
    grid.lower.cell? x y = (grid.cell? x y).map Text.lower := by
  simp only [cell?, lower, List.getElem?_map]
  cases grid.rows[y]? with
  | none => rfl
  | some row => exact List.getElem?_map

theorem cells_lower (grid : Grid) :
    grid.lower.cells = grid.cells.map fun (x, y, cell) => (x, y, Text.lower cell) := by
  simp [cells, lower, List.zipIdx_map, List.flatMap_map, List.map_flatMap, Function.comp_def]

theorem pieces_lower (grid : Grid) : grid.lower.pieces = grid.pieces := by
  rw [pieces, pieces, cells_lower, List.filterMap_map]
  apply congrArg (List.filterMap · grid.cells)
  funext entry
  obtain ⟨x, y, cell⟩ := entry
  simp only [Function.comp_apply, Piece.ofCode?_lower]

theorem height_lower (grid : Grid) : grid.lower.height = grid.height :=
  List.length_map _

end Grid

/-- Of the grid, a board depends on its extents and its pieces alone. -/
theorem Config.board_congr_pieces (config : Config) {left right : Diagram}
    (theme : right.settings.theme = left.settings.theme)
    (width : right.grid.width = left.grid.width) (height : right.grid.height = left.grid.height)
    (pieces : right.grid.pieces = left.grid.pieces) : config.board right = config.board left := by
  have drawn (palette : Palette) : Board.draw? right.grid palette config.canvas =
      Board.draw? left.grid palette config.canvas := by
    rw [Board.draw?, Board.draw?, Board.document_congr width height pieces]
  unfold Config.board
  simp only [theme, drawn]

/-- Two diagrams that differ in the ASCII case of free texts and of cells alone. -/
structure Diagram.AgreesUpToCase (left right : Diagram) : Prop where
  theme : right.settings.theme = left.settings.theme
  align : right.settings.align = left.settings.align
  size : right.settings.size = left.settings.size
  letters : right.settings.letters = left.settings.letters
  numbers : right.settings.numbers = left.settings.numbers
  title : Text.agrees left.settings.title right.settings.title = true
  notes : Text.agrees left.settings.notes right.settings.notes = true
  moves : Text.agrees left.settings.moves right.settings.moves = true
  width : right.grid.width = left.grid.width
  height : right.grid.height = left.grid.height
  cells : ∀ x y, (right.grid.cell? x y).map Text.lower = (left.grid.cell? x y).map Text.lower
  pieces : right.grid.pieces = left.grid.pieces

theorem Diagram.agreesUpToCase_of_lower {left right : Diagram} (same : right.lower = left.lower) :
    left.AgreesUpToCase right := by
  have settings : right.settings.lower = left.settings.lower := congrArg Diagram.settings same
  have grid : right.grid.lower = left.grid.lower := congrArg Diagram.grid same
  simp only [Settings.lower, Settings.mk.injEq] at settings
  obtain ⟨theme, align, size, title, notes, moves, letters, numbers⟩ := settings
  constructor
  case theme => exact theme
  case align => exact align
  case size => exact size
  case letters => exact letters
  case numbers => exact numbers
  case title => exact Text.agrees_iff.mpr title.symm
  case notes => exact Text.agrees_iff.mpr notes.symm
  case moves => exact Text.agrees_iff.mpr moves.symm
  case width =>
    have width : right.grid.lower.width = left.grid.lower.width := by rw [grid]
    exact width
  case height => rw [← right.grid.height_lower, ← left.grid.height_lower, grid]
  case cells =>
    intro x y
    rw [← Grid.cell?_lower, ← Grid.cell?_lower, grid]
  case pieces => rw [← right.grid.pieces_lower, ← left.grid.pieces_lower, grid]

theorem Notation.agreesUpToCase_diagram {left right : Text}
    (agree : Text.agrees left right = true) : (diagram left).AgreesUpToCase (diagram right) := by
  apply Diagram.agreesUpToCase_of_lower
  rw [← diagram_lower, ← diagram_lower, Text.agrees_iff.mp agree]

/-- The characters that are read as a keyword are in ASCII. -/
theorem Notation.isAscii_of_valueOn? {keyword : Keyword} {line found : Text}
    (value : valueOn? keyword.word line = some found) :
    ∀ character ∈ (Text.skipGap line).take keyword.word.length, Text.isAscii character = true := by
  unfold valueOn? at value
  split at value
  · rename_i separator rest opened
    obtain ⟨opening, whole, lowered⟩ := Text.afterWord?_eq_some_iff.mp opened
    have length : keyword.word.length = opening.length := by
      rw [← Text.length_lower, ← lowered, Text.length_lower]
    rw [whole, length, List.take_left]
    exact Text.isAscii_of_lower_eq lowered (by cases keyword <;> decide)
  · cases value

/-- A word with a character outside of ASCII is no ASCII spelling. -/
theorem Text.find?_spelling_eq_none {values : List α} (spelling : α → Text)
    (ascii : ∀ value ∈ values, (spelling value).all isAscii = true) {word : Text}
    {character : Char} (outside : isAscii character = false) (member : character ∈ word) :
    values.find? (fun value => agrees (spelling value) word) = none := by
  apply List.find?_eq_none.mpr
  intro value valueMember agree
  have lowered : lower word = lower (spelling value) := (agrees_iff.mp agree).symm
  have inside := isAscii_of_lower_eq lowered (ascii value valueMember) character member
  rw [outside] at inside
  cases inside

theorem PieceKind.isAscii_of_ofLetter? {letter : Char} {kind : PieceKind}
    (read : ofLetter? letter = some kind) : Text.isAscii letter = true := by
  rw [← Text.CaseBlind.isAscii letter, ofLetter?_eq_some_iff.mp read]
  cases kind <;> decide

theorem Side.isAscii_of_ofLetter? {letter : Char} {side : Side}
    (read : ofLetter? letter = some side) : Text.isAscii letter = true := by
  rw [← Text.CaseBlind.isAscii letter, ofLetter?_eq_some_iff.mp read]
  cases side <;> decide

/-- Sources that agree up to ASCII case are sources of diagrams that do, with the same board under
every configuration.  A character outside of ASCII is not folded with any other, and it stands in no
keyword, spelling or letter of a piece that is read. -/
theorem agreesUpToCase_of_agrees :
    (∀ left right : Text, Text.agrees left right = true →
      (Notation.diagram left).AgreesUpToCase (Notation.diagram right) ∧
        ∀ config : Config, config.renderBoard (Notation.diagram right) =
          config.renderBoard (Notation.diagram left)) ∧
      (∀ character other, Text.isAscii character = false →
        (Text.lowerChar other = Text.lowerChar character ↔ other = character)) ∧
      (∀ (keyword : Notation.Keyword) (line found : Text),
        Notation.valueOn? keyword.word line = some found →
        ∀ character ∈ (Text.skipGap line).take keyword.word.length,
          Text.isAscii character = true) ∧
      (∀ word character, Text.isAscii character = false → character ∈ word →
        Theme.ofSpelling? word = none ∧ Align.ofSpelling? word = none ∧
          LengthUnit.ofSpelling? word = none) ∧
      ∀ letter, Text.isAscii letter = false →
        PieceKind.ofLetter? letter = none ∧ Side.ofLetter? letter = none := by
  refine ⟨?_, ?_, ?_, ?_, ?_⟩
  · intro left right agree
    have same := Notation.agreesUpToCase_diagram agree
    refine ⟨same, ?_⟩
    intro config
    rw [Config.renderBoard, Config.renderBoard,
      config.board_congr_pieces same.theme same.width same.height same.pieces]
  · intro character other outside
    exact Text.lowerChar_eq_iff_of_not_isAscii outside
  · intro keyword line found value
    exact Notation.isAscii_of_valueOn? value
  · intro word character outside member
    refine ⟨?_, ?_, ?_⟩
    · exact Text.find?_spelling_eq_none Theme.spelling (by decide) outside member
    · exact Text.find?_spelling_eq_none Align.spelling (by decide) outside member
    · exact Text.find?_spelling_eq_none LengthUnit.spelling (by decide) outside member
  · intro letter outside
    constructor
    · apply Option.eq_none_iff_forall_ne_some.mpr
      intro kind read
      exact absurd (PieceKind.isAscii_of_ofLetter? read) (by simp [outside])
    · apply Option.eq_none_iff_forall_ne_some.mpr
      intro side read
      exact absurd (Side.isAscii_of_ofLetter? read) (by simp [outside])

/-- Sources in two cases, and the sign of the kelvin beside the letter that it looks like. -/
theorem agreesUpToCase_of_agrees_kelvin :
    (Notation.diagram "THEME Dark\ntitle Éa\n|kL|__|").AgreesUpToCase
        (Notation.diagram "theme dARK\nTitle ÉA\n|Kl|__|") ∧
      (∀ config : Config,
        config.renderBoard (Notation.diagram "theme dARK\nTitle ÉA\n|Kl|__|") =
          config.renderBoard (Notation.diagram "THEME Dark\ntitle Éa\n|kL|__|")) ∧
      Theme.ofSpelling? "dar\u212a" = none ∧ PieceKind.ofLetter? '\u212a' = none := by
  obtain ⟨agree, -, -, spellings, letters⟩ := agreesUpToCase_of_agrees
  obtain ⟨same, boards⟩ := agree "THEME Dark\ntitle Éa\n|kL|__|" "theme dARK\nTitle ÉA\n|Kl|__|"
    (by decide +kernel)
  have theme := (spellings "dar\u212a" '\u212a' (by decide) (by decide)).1
  have letter := (letters '\u212a' (by decide)).1
  exact ⟨same, boards, theme, letter⟩

end ChessDiagram
