import ChessDiagram.Main
import ChessDiagram.Proofs.Markdown.Automaton
import ChessDiagram.Proofs.Notation.Grids
import ChessDiagram.Proofs.Notation.Layout
import ChessDiagram.Proofs.Layout.Checkerboard
import ChessDiagram.Proofs.Drawing.Pieces
import ChessDiagram.Proofs.Render.FreeText
import ChessDiagram.Proofs.Render.Lines
import ChessDiagram.Proofs.Render.Outcome
import ChessDiagram.Proofs.CommandLine.Runs
import ChessDiagram.Proofs.Number.Arithmetic
import ChessDiagram.Proofs.Layout.Extents
import ChessDiagram.Proofs.Markup.Words
import ChessDiagram.Proofs.Color.Alpha
import ChessDiagram.Proofs.Drawing.Drawable
import ChessDiagram.Proofs.Color.Written
import ChessDiagram.Proofs.Drawing.Opacity
import ChessDiagram.Proofs.Markdown.Embedding
import ChessDiagram.Proofs.Markdown.LineEnds
import ChessDiagram.Proofs.Notation.Case
import ChessDiagram.Proofs.Render.Surroundings
import ChessDiagram.Proofs.Render.Case
import ChessDiagram.Proofs.Notation.Fields
import ChessDiagram.Proofs.Notation.Lookup
import ChessDiagram.Proofs.Drawing.LayerLists
import ChessDiagram.Proofs.Number.Exactness
import ChessDiagram.Proofs.Number.ScaledBack
import ChessDiagram.Proofs.Drawing.SquareBoards
import ChessDiagram.Proofs.Notation.Sizes
import ChessDiagram.Proofs.Grid.Padding
import ChessDiagram.Proofs.Markdown.Languages
import ChessDiagram.Proofs.Text.Capital
import ChessDiagram.Proofs.Text.Unescape
