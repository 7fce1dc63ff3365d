import ChessDiagram.Proofs.Markdown.Blocks
import ChessDiagram.Proofs.Markdown.Grammar
import ChessDiagram.Proofs.Text.Lines

/-!
# Documents as a run over lines

A document can be read line by line with nothing but a mode in mind: outside of blocks, inside a
diagram block, or inside a fence of code.  A step reads one line, writes a text and gives the next
mode.  The rendered document is what a run over all lines writes, where a block still open at the
end is written as if it were closed there, and where the first block that does not render ends the
run.
-/

namespace ChessDiagram.Markdown

instance (content : Text) : Decidable (IsContainerOpening content) :=
  decidable_of_iff _ opensContainer_iff

instance (content : Text) : Decidable (IsRule ':' 3 content) :=
  decidable_of_iff _ closesContainer_iff

instance (fence : Fence) (content : Text) :
    Decidable (IsRule fence.marker.character fence.length content) :=
  decidable_of_iff _ Fence.isClosedBy_iff

inductive OpenDiagram where
  | container
  | fenced (fence : Fence)

namespace OpenDiagram

/-- The lines that end a diagram block. -/
def IsClosing : OpenDiagram → Text → Prop
  | .container => IsRule ':' 3
  | .fenced fence => IsRule fence.marker.character fence.length

instance (block : OpenDiagram) (content : Text) : Decidable (block.IsClosing content) :=
  match block with
  | .container => inferInstanceAs (Decidable (IsRule ':' 3 content))
  | .fenced fence =>
      inferInstanceAs (Decidable (IsRule fence.marker.character fence.length content))

/-- What a block is replaced by, given its source and the end of its last line. -/
def replacement (config : Config) (source ending : Text) :
    OpenDiagram → Except RenderError Text
  | .container => (config.render source).map fun fragment => fragment ++ ending
  | .fenced _ => (config.render source).map fun fragment =>
      opening ++ fragment ++ closing ++ ending

end OpenDiagram

inductive Mode where
  | top
  /-- In a diagram block, with the source so far and the last line read. -/
  | diagram (block : OpenDiagram) (source last : Text)
  | code (fence : Fence)

namespace Mode

/-- What is written for a line, and the mode behind it. -/
def step (config : Config) (line : Text) : Mode → Except RenderError (Text × Mode)
  | .top =>
      if IsContainerOpening (content line) then
        .ok ([], .diagram .container [] line)
      else
        match fence? (content line) with
        | some fence =>
            if fence.isDiagram then
              .ok ([], .diagram (.fenced fence) [] line)
            else
              .ok (line, .code fence)
        | none => .ok (line, .top)
  | .diagram block source _ =>
      if block.IsClosing (content line) then
        (block.replacement config source (lineEnd line)).map fun written => (written, .top)
      else
        .ok ([], .diagram block (source ++ line) line)
  | .code fence =>
      if IsRule fence.marker.character fence.length (content line) then
        .ok (line, .top)
      else
        .ok (line, .code fence)

def finish (config : Config) : Mode → Except RenderError Text
  | .diagram block source last => block.replacement config source (lineEnd last)
  | _ => .ok []

def run (config : Config) (mode : Mode) : List Text → Except RenderError Text
  | [] => mode.finish config
  | line :: rest => do
      let (written, next) ← mode.step config line
      let others ← next.run config rest
      return written ++ others

theorem run_cons {config : Config} {mode next : Mode} {line written : Text}
    (stepped : mode.step config line = .ok (written, next)) (rest : List Text) :
    run config mode (line :: rest) =
      (run config next rest).map fun others => written ++ others := by
  rw [run, stepped]
  rfl

theorem run_cons_silent {config : Config} {mode next : Mode} {line : Text}
    (stepped : mode.step config line = .ok ([], next)) (rest : List Text) :
    run config mode (line :: rest) = run config next rest := by
  rw [run_cons stepped]
  cases run config next rest <;> rfl

/-- A run inside a diagram block writes the replacement of the block, whose source goes on with the
body that the block still takes, and then what a run behind the block writes. -/
theorem run_diagram (config : Config) {block : OpenDiagram} {closes : Text → Bool}
    (closes_iff : ∀ content, closes content = true ↔ block.IsClosing content)
    (source last : Text) (lines : List Text) :
    run config (.diagram block source last) lines = (do
      let taken := Block.take closes lines
      let written ← block.replacement config (source ++ taken.source) (taken.ending last)
      let others ← run config .top taken.rest
      return written ++ others) := by
  induction lines generalizing source last with
  | nil =>
      simp only [run, finish, Block.take_nil, Block.source, Block.ending, Block.lines,
        List.flatten_nil, List.append_nil, Option.toList_none, List.getLast?_nil, Option.getD_none]
      cases block.replacement config source (lineEnd last) with
      | error failure => rfl
      | ok written => exact congrArg Except.ok (List.append_nil written).symm
  | cons line rest induction =>
      cases closed : closes (content line) with
      | true =>
          have isClosing : block.IsClosing (content line) := (closes_iff _).mp closed
          rw [run, step, if_pos isClosing, Block.take_cons_of_closes rest closed]
          simp only [Block.source, Block.ending, Block.lines, List.flatten_nil, List.append_nil,
            Option.toList_some, List.nil_append, List.getLast?_singleton, Option.getD_some]
          cases block.replacement config source (lineEnd line) <;> rfl
      | false =>
          have inside : ¬ block.IsClosing (content line) := by
            rw [← closes_iff, closed]
            simp
          have stepped : (diagram block source last).step config line =
              .ok ([], .diagram block (source ++ line) line) := if_neg inside
          have sameSource : source ++ (Block.take closes (line :: rest)).source =
              source ++ line ++ (Block.take closes rest).source := by
            simp [Block.take_cons_of_not_closes rest closed, Block.source]
          have sameRest : (Block.take closes (line :: rest)).rest =
              (Block.take closes rest).rest := by
            rw [Block.take_cons_of_not_closes rest closed]
          rw [run_cons_silent stepped, induction (source ++ line) line]
          simp only [sameSource, sameRest, Block.ending_cons_of_not_closes rest last closed]

/-- A run inside a fence of code copies the fence and goes on behind it. -/
theorem run_code (config : Config) (fence : Fence) (lines : List Text) :
    run config (.code fence) lines =
      (run config .top (Block.take fence.isClosedBy lines).rest).map fun others =>
        (Block.take fence.isClosedBy lines).lines.flatten ++ others := by
  induction lines with
  | nil => rfl
  | cons line rest induction =>
      cases closed : fence.isClosedBy (content line) with
      | true =>
          have stepped : (code fence).step config line = .ok (line, .top) :=
            if_pos (Fence.isClosedBy_iff.mp closed)
          rw [run_cons stepped, Block.take_cons_of_closes rest closed]
          simp [Block.lines]
      | false =>
          have inside : ¬ IsRule fence.marker.character fence.length (content line) := by
            rw [← Fence.isClosedBy_iff, closed]
            simp
          have stepped : (code fence).step config line = .ok (line, .code fence) :=
            if_neg inside
          rw [run_cons stepped, induction, Block.take_cons_of_not_closes rest closed]
          cases run config .top (Block.take fence.isClosedBy rest).rest with
          | error failure => rfl
          | ok others => simp [Except.map, Block.lines]

theorem run_top (config : Config) (lines : List Text) :
    run config .top lines = renderParts config (parts lines) := by
  induction lines using partsInduction with
  | nil =>
      rw [parts_nil]
      rfl
  | container line rest opens induction =>
      have stepped : top.step config line = .ok ([], .diagram .container [] line) :=
        if_pos (opensContainer_iff.mp opens)
      rw [run_cons_silent stepped, run_diagram config fun _ => closesContainer_iff,
        parts_container rest opens, renderParts_cons, ← induction]
      rfl
  | fenced line rest fence noContainer opens diagram induction =>
      have noOpening : ¬ IsContainerOpening (content line) := mt opensContainer_iff.mpr noContainer
      have stepped : top.step config line = .ok ([], .diagram (.fenced fence) [] line) := by
        rw [step, if_neg noOpening, opens]
        exact if_pos diagram
      rw [run_cons_silent stepped, run_diagram config fun _ => Fence.isClosedBy_iff,
        parts_fenced rest noContainer opens diagram, renderParts_cons, ← induction]
      rfl
  | code line rest fence noContainer opens noDiagram induction =>
      have noOpening : ¬ IsContainerOpening (content line) := mt opensContainer_iff.mpr noContainer
      have stepped : top.step config line = .ok (line, .code fence) := by
        rw [step, if_neg noOpening, opens]
        exact if_neg noDiagram
      rw [run_cons stepped, run_code, parts_code rest noContainer opens noDiagram,
        renderParts_cons, ← induction]
      cases run config .top (Block.take fence.isClosedBy rest).rest with
      | error failure => rfl
      | ok others => simp [Except.map, Part.render, bind, Except.bind, pure, Except.pure]
  | copied line rest noContainer noFence induction =>
      have noOpening : ¬ IsContainerOpening (content line) := mt opensContainer_iff.mpr noContainer
      have stepped : top.step config line = .ok (line, .top) := by
        rw [step, if_neg noOpening, noFence]
      rw [run_cons stepped, parts_copied rest noContainer noFence, renderParts_cons, induction]
      cases renderParts config (parts rest) <;> rfl

end Mode

/-- Rendering a document is the run over its lines, which are the document cut behind every line
feed, and the fences that the run opens are those of the grammar. -/
theorem render_eq_run (config : Config) (document : Text) :
    (∀ lines, lines = Text.segments document ↔ Text.Segmented lines ∧ lines.flatten = document) ∧
      (∀ content fence, fence? content = some fence ↔ fence.IsOpening content) ∧
      render config document = Mode.top.run config (Text.segments document) := by
  refine ⟨fun _ => Text.eq_segments_iff, fun _ _ => fence?_eq_some_iff, ?_⟩
  rw [Mode.run_top, render_eq_renderParts]

end ChessDiagram.Markdown
