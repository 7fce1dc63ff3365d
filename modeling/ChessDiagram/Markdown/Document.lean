import ChessDiagram.Markdown.Fence
import ChessDiagram.Render

/-!
# Markdown documents

A document is a sequence of parts: lines that are copied, fenced code that is copied as a whole, and
diagram blocks.  Rendering replaces every diagram block by the fragment of its source and the end of
its last line, and keeps all other characters.  The fragment of a fenced diagram stands inside an
unstyled `pre` element.

A block that is never closed reaches to the end of the document.
-/

namespace ChessDiagram.Markdown

def isLineEnd (character : Char) : Bool :=
  character == '\n' || character == '\r'

/-- A line without its end, which is its longest final run of line feeds and carriage returns. -/
def content (line : Text) : Text :=
  Text.dropEndWhile isLineEnd line

def lineEnd (line : Text) : Text :=
  line.drop (content line).length

/-- How a diagram is marked off in a document. -/
inductive Enclosure where
  | container
  | fence
deriving DecidableEq

inductive Part where
  | copied (line : Text)
  | code (lines : List Text)
  | diagram (enclosure : Enclosure) (source : Text) (ending : Text)
deriving DecidableEq

/-- The lines after an opening line, cut after the first line that closes it. -/
structure Block where
  body : List Text
  closing : Option Text
  rest : List Text

namespace Block

/-- The block whose closing lines are those with a content of some form. -/
def take (closes : Text → Bool) (lines : List Text) : Block :=
  let body := lines.takeWhile fun line => !closes (content line)
  match lines.dropWhile fun line => !closes (content line) with
  | [] => { body, closing := none, rest := [] }
  | closing :: rest => { body, closing := some closing, rest }

theorem length_rest_take_le (closes : Text → Bool) (lines : List Text) :
    (take closes lines).rest.length ≤ lines.length := by
  have shorter := (List.dropWhile_sublist (l := lines) fun line => !closes (content line)).length_le
  unfold take
  split
  · exact Nat.zero_le _
  · rename_i equation
    rw [equation] at shorter
    exact Nat.le_of_succ_le shorter

/-- The text between the opening and the closing line. -/
def source (block : Block) : Text :=
  block.body.flatten

/-- The lines of a block after its opening line. -/
def lines (block : Block) : List Text :=
  block.body ++ block.closing.toList

/-- The end of the last line of a block that a given line opens. -/
def ending (block : Block) (opening : Text) : Text :=
  lineEnd (block.lines.getLast?.getD opening)

end Block

/-- The parts of a document, given by its lines with their ends. -/
def parts : List Text → List Part
  | [] => []
  | line :: rest =>
      if opensContainer (content line) then
        let block := Block.take closesContainer rest
        .diagram .container block.source (block.ending line) :: parts block.rest
      else
        match fence? (content line) with
        | some fence =>
            let block := Block.take fence.isClosedBy rest
            if fence.isDiagram then
              .diagram .fence block.source (block.ending line) :: parts block.rest
            else
              .code (line :: block.lines) :: parts block.rest
        | none => .copied line :: parts rest
termination_by lines => lines.length
decreasing_by
  · exact Nat.lt_succ_of_le (Block.length_rest_take_le _ rest)
  · exact Nat.lt_succ_of_le (Block.length_rest_take_le _ rest)
  · exact Nat.lt_succ_of_le (Block.length_rest_take_le _ rest)
  · exact Nat.lt_succ_self _

def opening : Text := "<pre style=\"all:unset;\">"

def closing : Text := "</pre>"

/-- A fragment as it stands in a document. -/
def Enclosure.wrap (enclosure : Enclosure) (fragment : Text) : Text :=
  match enclosure with
  | .container => fragment
  | .fence => opening ++ fragment ++ closing

def Part.render (config : Config) : Part → Except RenderError Text
  | .copied line => .ok line
  | .code lines => .ok lines.flatten
  | .diagram enclosure source ending =>
      (config.render source).map fun fragment => enclosure.wrap fragment ++ ending

/-- The document with its diagram blocks rendered. -/
def render (config : Config) (document : Text) : Except RenderError Text := do
  let rendered ← (parts (Text.segments document)).mapM (Part.render config)
  return rendered.flatten

end ChessDiagram.Markdown
