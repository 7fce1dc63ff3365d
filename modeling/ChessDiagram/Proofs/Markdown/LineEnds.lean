import ChessDiagram.Proofs.Markdown.Blocks
import ChessDiagram.Proofs.Notation.LineEnds

/-!
# Line ends in documents

A carriage return in front of every line feed changes nothing in a document but the line ends that
are kept: its lines open and close the same blocks, the sources of its diagrams are sources of the
same diagrams, and what is copied is copied with the new line ends.
-/

namespace ChessDiagram

theorem Config.render_crlf (config : Config) (source : Text) :
    config.render (Text.crlf source) = config.render source := by
  rw [render, render, Notation.diagram_crlf]

namespace Markdown

/-- A line feed stands at the end of the line or nowhere in it. -/
def IsLine (line : Text) : Prop :=
  ∃ body, '\n' ∉ body ∧ (line = body ∨ line = body ++ ['\n'])

theorem isLine_of_mem_segments {text line : Text} (member : line ∈ Text.segments text) :
    IsLine line :=
  (Text.segmented_segments text).exists_body member

theorem content_crlf {line : Text} (isLine : IsLine line) :
    content (Text.crlf line) = content line := by
  obtain ⟨body, noFeed, rfl | rfl⟩ := isLine
  · rw [Text.crlf_of_noFeed noFeed]
  · have returned : Text.crlf (body ++ ['\n']) = (body ++ ['\r']) ++ ['\n'] :=
      Text.crlf_append_feed noFeed []
    rw [returned, content_append_feed, content_append_feed]
    exact Text.dropEndWhile_append_of_pos body rfl

theorem feed_notMem_content {line : Text} (isLine : IsLine line) : '\n' ∉ content line := by
  obtain ⟨body, noFeed, rfl | rfl⟩ := isLine
  · exact fun feed => noFeed ((prefix_content line).mem feed)
  · rw [content_append_feed]
    exact fun feed => noFeed ((prefix_content body).mem feed)

theorem lineEnd_crlf {line : Text} (isLine : IsLine line) :
    lineEnd (Text.crlf line) = Text.crlf (lineEnd line) := by
  have whole : content line ++ lineEnd (Text.crlf line) =
      content line ++ Text.crlf (lineEnd line) := by
    calc
      content line ++ lineEnd (Text.crlf line) =
          content (Text.crlf line) ++ lineEnd (Text.crlf line) := by rw [content_crlf isLine]
      _ = Text.crlf line := content_append_lineEnd _
      _ = Text.crlf (content line ++ lineEnd line) := by rw [content_append_lineEnd]
      _ = content line ++ Text.crlf (lineEnd line) := by
        rw [Text.crlf_append, Text.crlf_of_noFeed (feed_notMem_content isLine)]
  exact List.append_cancel_left whole

namespace Block

/-- The block with every line changed. -/
def map (change : Text → Text) (block : Block) : Block where
  body := block.body.map change
  closing := block.closing.map change
  rest := block.rest.map change

theorem take_map {change : Text → Text} (closes : Text → Bool) {lines : List Text}
    (same : ∀ line ∈ lines, content (change line) = content line) :
    take closes (lines.map change) = (take closes lines).map change := by
  induction lines with
  | nil => rfl
  | cons line rest induction =>
      obtain ⟨first, others⟩ := List.forall_mem_cons.mp same
      rw [List.map_cons]
      cases closed : closes (content line) with
      | true =>
          have closedToo : closes (content (change line)) = true := by rw [first, closed]
          rw [take_cons_of_closes _ closedToo, take_cons_of_closes _ closed]
          rfl
      | false =>
          have openToo : closes (content (change line)) = false := by rw [first, closed]
          rw [take_cons_of_not_closes _ openToo, take_cons_of_not_closes _ closed,
            induction others]
          rfl

theorem mem_of_mem_rest {closes : Text → Bool} {lines : List Text} {line : Text}
    (member : line ∈ (take closes lines).rest) : line ∈ lines := by
  rw [← lines_append_rest closes lines]
  exact List.mem_append_right _ member

theorem mem_of_mem_lines {closes : Text → Bool} {lines : List Text} {line : Text}
    (member : line ∈ (take closes lines).lines) : line ∈ lines := by
  rw [← lines_append_rest closes lines]
  exact List.mem_append_left _ member

theorem source_map_crlf (block : Block) :
    (block.map Text.crlf).source = Text.crlf block.source :=
  (Text.crlf_flatten block.body).symm

theorem rest_map (change : Text → Text) (block : Block) :
    (block.map change).rest = block.rest.map change :=
  rfl

theorem lines_map (change : Text → Text) (block : Block) :
    (block.map change).lines = block.lines.map change := by
  obtain ⟨body, closing, rest⟩ := block
  cases closing <;> simp [map, Block.lines]

section

variable {lines : List Text} (isLine : ∀ line ∈ lines, IsLine line)
include isLine

theorem take_map_crlf (closes : Text → Bool) :
    take closes (lines.map Text.crlf) = (take closes lines).map Text.crlf :=
  take_map closes fun line member => content_crlf (isLine line member)

theorem ending_map_crlf (closes : Text → Bool) {opening : Text} (openingIsLine : IsLine opening) :
    ((take closes lines).map Text.crlf).ending (Text.crlf opening) =
      Text.crlf ((take closes lines).ending opening) := by
  unfold ending
  rw [lines_map, List.getLast?_map, Option.getD_map]
  apply lineEnd_crlf
  cases last : (take closes lines).lines.getLast? with
  | none => exact openingIsLine
  | some line => exact isLine line (mem_of_mem_lines (List.mem_of_getLast? last))

end

end Block

/-- A part of a document with a carriage return in front of every line feed. -/
def Part.crlf : Part → Part
  | .copied line => .copied (Text.crlf line)
  | .code lines => .code (lines.map Text.crlf)
  | .diagram enclosure source ending => .diagram enclosure (Text.crlf source) (Text.crlf ending)

theorem parts_map_crlf {lines : List Text} (isLine : ∀ line ∈ lines, IsLine line) :
    parts (lines.map Text.crlf) = (parts lines).map Part.crlf := by
  induction lines using partsInduction with
  | nil => simp
  | container line rest opens induction =>
      obtain ⟨first, others⟩ := List.forall_mem_cons.mp isLine
      have opensToo : opensContainer (content (Text.crlf line)) = true := by
        rw [content_crlf first, opens]
      have behind := induction fun other member => others other (Block.mem_of_mem_rest member)
      rw [List.map_cons, parts_container _ opensToo, parts_container _ opens,
        Block.take_map_crlf others, Block.source_map_crlf, Block.ending_map_crlf others _ first,
        Block.rest_map, behind]
      rfl
  | fenced line rest fence noContainer opens diagram induction =>
      obtain ⟨first, others⟩ := List.forall_mem_cons.mp isLine
      have noContainerToo : ¬ opensContainer (content (Text.crlf line)) = true := by
        rwa [content_crlf first]
      have opensToo : fence? (content (Text.crlf line)) = some fence := by
        rw [content_crlf first, opens]
      have behind := induction fun other member => others other (Block.mem_of_mem_rest member)
      rw [List.map_cons, parts_fenced _ noContainerToo opensToo diagram,
        parts_fenced _ noContainer opens diagram, Block.take_map_crlf others,
        Block.source_map_crlf, Block.ending_map_crlf others _ first, Block.rest_map, behind]
      rfl
  | code line rest fence noContainer opens noDiagram induction =>
      obtain ⟨first, others⟩ := List.forall_mem_cons.mp isLine
      have noContainerToo : ¬ opensContainer (content (Text.crlf line)) = true := by
        rwa [content_crlf first]
      have opensToo : fence? (content (Text.crlf line)) = some fence := by
        rw [content_crlf first, opens]
      have behind := induction fun other member => others other (Block.mem_of_mem_rest member)
      rw [List.map_cons, parts_code _ noContainerToo opensToo noDiagram,
        parts_code _ noContainer opens noDiagram, Block.take_map_crlf others, Block.lines_map,
        Block.rest_map, behind]
      rfl
  | copied line rest noContainer noFence induction =>
      obtain ⟨first, others⟩ := List.forall_mem_cons.mp isLine
      have noContainerToo : ¬ opensContainer (content (Text.crlf line)) = true := by
        rwa [content_crlf first]
      have noFenceToo : fence? (content (Text.crlf line)) = none := by
        rw [content_crlf first, noFence]
      rw [List.map_cons, parts_copied _ noContainerToo noFenceToo,
        parts_copied _ noContainer noFence, induction others]
      rfl

theorem parts_segments_crlf (document : Text) :
    parts (Text.segments (Text.crlf document)) =
      (parts (Text.segments document)).map Part.crlf := by
  rw [Text.segments_crlf]
  exact parts_map_crlf fun _ => isLine_of_mem_segments

namespace Part

/-- What stands for a part in the rendered document in front of what is kept of it. -/
def replacement (config : Config) : Part → Except RenderError Text
  | .diagram enclosure source _ => (config.render source).map enclosure.wrap
  | _ => .ok []

/-- The characters of a part that the rendered document keeps. -/
def kept : Part → Text
  | .copied line => line
  | .code lines => lines.flatten
  | .diagram _ _ ending => ending

theorem render_eq (config : Config) (part : Part) :
    part.render config = (part.replacement config).map fun written => written ++ part.kept := by
  cases part with
  | copied line => rfl
  | code lines => rfl
  | diagram enclosure source ending =>
      rw [render, replacement]
      cases config.render source <;> rfl

theorem replacement_crlf (config : Config) (part : Part) :
    part.crlf.replacement config = part.replacement config := by
  cases part with
  | copied line => rfl
  | code lines => rfl
  | diagram enclosure source ending =>
      rw [crlf, replacement, replacement, config.render_crlf]

theorem kept_crlf (part : Part) : part.crlf.kept = Text.crlf part.kept := by
  cases part with
  | copied line => rfl
  | code lines => exact (Text.crlf_flatten lines).symm
  | diagram enclosure source ending => rfl

end Part

/-- The replacements of parts, each with what is kept of its part behind it. -/
def weave (kept : Part → Text) (parts : List Part) (replacements : List Text) : Text :=
  (List.zipWith (fun written part => written ++ kept part) replacements parts).flatten

theorem renderParts_eq_weave (config : Config) (parts : List Part) :
    renderParts config parts =
      (parts.mapM (Part.replacement config)).map (weave Part.kept parts) := by
  induction parts with
  | nil => rfl
  | cons part others induction =>
      rw [renderParts_cons, induction, Part.render_eq, List.mapM_cons]
      cases part.replacement config with
      | error failure => rfl
      | ok written => cases others.mapM (Part.replacement config) <;> rfl

theorem renderParts_map_crlf (config : Config) (parts : List Part) :
    renderParts config (parts.map Part.crlf) =
      (parts.mapM (Part.replacement config)).map
        (weave (fun part => Text.crlf part.kept) parts) := by
  have replacements : (parts.map Part.crlf).mapM (Part.replacement config) =
      parts.mapM (Part.replacement config) := by
    rw [List.mapM_map]
    exact congrArg (fun replace => parts.mapM replace) (funext (Part.replacement_crlf config))
  have woven : weave Part.kept (parts.map Part.crlf) =
      weave (fun part => Text.crlf part.kept) parts := by
    funext texts
    simp only [weave, List.zipWith_map_right, Part.kept_crlf]
  rw [renderParts_eq_weave, replacements, woven]

/-- A source with a carriage return in front of every line feed is a source of the same diagram, and
a document is cut into the same parts.  Each diagram block is replaced by the same text, and all
that is kept, line ends behind replaced blocks included, is kept with the new line ends.  Either
both documents render or both fail with the same error. -/
theorem render_crlf_eq_weave :
    (∀ source, Notation.diagram (Text.crlf source) = Notation.diagram source) ∧
      (∀ (config : Config) (source : Text),
        config.render (Text.crlf source) = config.render source) ∧
      ∀ document,
        Text.segments (Text.crlf document) = (Text.segments document).map Text.crlf ∧
          parts (Text.segments (Text.crlf document)) =
            (parts (Text.segments document)).map Part.crlf ∧
          ∀ config,
            let cut := parts (Text.segments document)
            render config document =
                (cut.mapM (Part.replacement config)).map (weave Part.kept cut) ∧
              render config (Text.crlf document) =
                (cut.mapM (Part.replacement config)).map
                  (weave (fun part => Text.crlf part.kept) cut) ∧
              ∀ error, render config (Text.crlf document) = .error error ↔
                render config document = .error error := by
  refine ⟨Notation.diagram_crlf, Config.render_crlf, ?_⟩
  intro document
  refine ⟨Text.segments_crlf document, parts_segments_crlf document, ?_⟩
  intro config
  have rendered : render config document =
      ((parts (Text.segments document)).mapM (Part.replacement config)).map
        (weave Part.kept (parts (Text.segments document))) := by
    rw [render_eq_renderParts, renderParts_eq_weave]
  have returned : render config (Text.crlf document) =
      ((parts (Text.segments document)).mapM (Part.replacement config)).map
        (weave (fun part => Text.crlf part.kept) (parts (Text.segments document))) := by
    rw [render_eq_renderParts, parts_segments_crlf, renderParts_map_crlf]
  refine ⟨rendered, returned, ?_⟩
  intro error
  rw [rendered, returned]
  cases (parts (Text.segments document)).mapM (Part.replacement config) with
  | error failure => rfl
  | ok texts => exact ⟨nofun, nofun⟩

end Markdown

end ChessDiagram
